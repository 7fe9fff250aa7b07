import Mathlib.Data.BitVec

/-!
# The configuration-file buffers

`plx_set_config_file` copies a configuration string into a fresh block of pages, terminates it
and maps it for DMA, keeping the mapping in a triple `(*dma_addr, *size, *virt_addr)`; an old
buffer in the triple is released first. `plx_clear_dma_mapped_mem` releases the buffer of a
triple. The model records what the two functions do outside the driver as a list of events
(`Event`): the kernel calls with the kernel's answers, and the reads and stores of the new
buffer. `Kernel` keeps the live page blocks and DMA mappings and refuses a release of one that
is not live (`Kernel.run`).

Two things go wrong:

* `plx_clear_dma_mapped_mem` does not zero the triple, and `plx_set_config_file` records a
  mapping whose `dma_mapping_error` it has just reported. A clear after a clear, a set after a
  clear, and a clear after a failed mapping all release what is not live
  (`config_slot_released_twice`).
* `get_order` takes a size in bytes, and is given the page count `pages_num`. For a count of up
  to `PAGE_SIZE^2` bytes the block is one page, so a count of `PAGE_SIZE` or more writes the
  terminating NUL and maps `count + 1` bytes past its end; a count of 0 reads the byte before
  it. The accesses lie in the block exactly when `0 < count < PAGE_SIZE`
  (`config_file_accesses_within_iff`).

## Main definitions

* `divRoundUp`, `fls64`, `pageSize`, `getOrder`: the kernel helpers.
* `Event`, `Kernel`, `Kernel.apply`, `Kernel.run`.
* `ConfigSlot`, `plxClearDmaMappedMem`, `SetAnswers`, `plxSetConfigFile`, `runCalls`.
* `Event.Within`, `bufferBytes`, `AccessesWithin`.

## Main results

* `config_slot_released_twice`.
* `getOrder_of_le`: `get_order` of at most `2^PAGE_SHIFT` pages is 0.
* `config_file_accesses_within_iff`.

## References

* `src/node-drivers/base-driver/drivers/vca/plx87xx/plx_hw.c`, lines 1697–1764.
-/

namespace PlxHw.Dma

/-! ### Kernel helpers -/

/-- `DIV_ROUND_UP(n, d)` on `unsigned long`. -/
def divRoundUp (n d : BitVec 64) : BitVec 64 := (n + d - 1) / d

/-- `fls64(x)`: one plus the index of the highest set bit of `x`, and 0 for 0. -/
def fls64 (x : BitVec 64) : Nat :=
  (List.range 64).foldl (fun acc i => if x.getLsbD i then i + 1 else acc) 0

variable (pageShift : Nat)

/-- `PAGE_SIZE`, `1 << PAGE_SHIFT`. -/
def pageSize : BitVec 64 := (1 : BitVec 64) <<< pageShift

/-- The kernel's `get_order(size)` for a size not known at compile time: the order of the
smallest block of pages holding `size` bytes, `size--; size >>= PAGE_SHIFT; fls64(size)`. -/
def getOrder (size : BitVec 64) : Nat := fls64 ((size - 1) >>> pageShift)

/-! ### The calls into the kernel and the buffer accesses -/

/-- What `plx_set_config_file` and `plx_clear_dma_mapped_mem` do outside the driver, with the
kernel's answers. -/
inductive Event
  /-- `__get_dma_pages(GFP_KERNEL | __GFP_ZERO, order)` returned `addr`, 0 on failure. -/
  | getDmaPages (order : Nat) (addr : BitVec 64)
  /-- `free_pages(addr, order)`. -/
  | freePages (addr : BitVec 64) (order : Nat)
  /-- `dma_map_single(dev, addr, len, DMA_BIDIRECTIONAL)` returned `handle`, and
  `dma_mapping_error` says `error` of it. -/
  | dmaMapSingle (addr len handle : BitVec 64) (error : Bool)
  /-- `dma_unmap_single(dev, handle, len, DMA_BIDIRECTIONAL)`. -/
  | dmaUnmapSingle (handle len : BitVec 64)
  /-- `memcpy_toio(addr, buf, len)`. -/
  | copyToIo (addr len : BitVec 64)
  /-- A read of the byte at `addr`. -/
  | readByte (addr : BitVec 64)
  /-- A store of a byte at `addr`. -/
  | writeByte (addr : BitVec 64)
  deriving DecidableEq, Repr

/-- The kernel's live page blocks `(addr, order)` and DMA mappings `(handle, len)`. -/
structure Kernel where
  pages : List (BitVec 64 × Nat)
  mappings : List (BitVec 64 × BitVec 64)
  deriving DecidableEq, Repr

/-- The kernel after an event, `none` when the event releases a block or a mapping that is not
live with that order or length. -/
def Kernel.apply (k : Kernel) : Event → Option Kernel
  | .getDmaPages order addr =>
    some (if addr = 0 then k else { k with pages := (addr, order) :: k.pages })
  | .freePages addr order =>
    if (addr, order) ∈ k.pages then some { k with pages := k.pages.erase (addr, order) } else none
  | .dmaMapSingle _ len handle error =>
    some (if error then k else { k with mappings := (handle, len) :: k.mappings })
  | .dmaUnmapSingle handle len =>
    if (handle, len) ∈ k.mappings then some { k with mappings := k.mappings.erase (handle, len) }
    else none
  | _ => some k

/-- The kernel after a sequence of events, `none` if one of them is a bad release. -/
def Kernel.run (k : Kernel) : List Event → Option Kernel
  | [] => some k
  | e :: es => (k.apply e).bind fun k' => k'.run es

/-! ### The two functions -/

/-- The triple `(*dma_addr, *size, *virt_addr)` the two functions keep a buffer in. -/
structure ConfigSlot where
  dmaAddr : BitVec 64
  size : BitVec 32
  virtAddr : BitVec 64
  deriving DecidableEq, Repr

/-- `plx_clear_dma_mapped_mem(xdev, dma_addr, size, virt_addr)`: the events; the triple is left
as it is. -/
def plxClearDmaMappedMem (slot : ConfigSlot) : List Event :=
  let pagesNum := divRoundUp (slot.size.setWidth 64) (pageSize pageShift)
  if pagesNum ≠ 0 then
    [.dmaUnmapSingle slot.dmaAddr (slot.size.setWidth 64),
      .freePages slot.virtAddr (getOrder pageShift pagesNum)]
  else []

/-- What the kernel answers `plx_set_config_file`: the address `__get_dma_pages` returns (0 when
it fails), the handle `dma_map_single` returns and whether it is a mapping error, and the byte
before the buffer, read when `count` is 0. -/
structure SetAnswers where
  addr : BitVec 64
  handle : BitVec 64
  mapError : Bool
  byteBefore : BitVec 8

/-- `-ENOMEM` as an `ssize_t`. -/
def enomem : BitVec 64 := -12

/-- `plx_set_config_file(xdev, buf, count, dma_addr, size, virt_addr)`, the kernel answering `ans`:
the triple after, the events, and the return value. -/
def plxSetConfigFile (slot : ConfigSlot) (buf : List (BitVec 8)) (count : BitVec 64)
    (ans : SetAnswers) : ConfigSlot × List Event × BitVec 64 :=
  let pagesNum := divRoundUp (count + 1) (pageSize pageShift)
  -- if already exist, then delete
  let (slot, release) :=
    if slot.size ≠ 0 then
      let oldPagesNum := divRoundUp (slot.size.setWidth 64) (pageSize pageShift)
      ((⟨0, 0, 0⟩ : ConfigSlot),
        [.dmaUnmapSingle slot.dmaAddr (slot.size.setWidth 64),
          .freePages slot.virtAddr (getOrder pageShift oldPagesNum)])
    else (slot, [])
  let alloc := Event.getDmaPages (getOrder pageShift pagesNum) ans.addr
  if ans.addr = 0 then (slot, release ++ [alloc], enomem)
  else
    let last := if count = 0 then ans.byteBefore else buf.getD (count - 1).toNat 0
    let nulAt := if last = 10 then count - 1 else count
    (⟨ans.handle, (count + 1).setWidth 32, ans.addr⟩,
      release ++ [alloc, .copyToIo ans.addr count, .readByte (ans.addr + (count - 1)),
        .writeByte (ans.addr + nulAt),
        .dmaMapSingle ans.addr (count + 1) ans.handle ans.mapError],
      count)

/-- A call of one of the two functions on the triple. -/
inductive SlotCall
  | set (buf : List (BitVec 8)) (count : BitVec 64) (ans : SetAnswers)
  | clear

/-- The triple after a sequence of calls on it, and the events of the calls. -/
def runCalls (slot : ConfigSlot) : List SlotCall → ConfigSlot × List Event
  | [] => (slot, [])
  | .set buf count ans :: cs =>
    let r := plxSetConfigFile pageShift slot buf count ans
    let rest := runCalls r.1 cs
    (rest.1, r.2.1 ++ rest.2)
  | .clear :: cs =>
    let rest := runCalls slot cs
    (rest.1, plxClearDmaMappedMem pageShift slot ++ rest.2)

/-! ### Releases -/

section Release

variable {pageShift}

private theorem setWidth_setWidth_of_lt {x : BitVec 64} (h : x.toNat < 2 ^ 32) :
    (x.setWidth 32).setWidth 64 = x := by
  apply BitVec.eq_of_toNat_eq
  simp only [BitVec.toNat_setWidth]
  rw [Nat.mod_eq_of_lt h, Nat.mod_eq_of_lt (by omega)]

private theorem toNat_pageSize (hs : pageShift < 32) : (pageSize pageShift).toNat = 2 ^ pageShift := by
  have : 2 ^ pageShift < 2 ^ 64 := Nat.pow_lt_pow_right (by decide) (by omega)
  simpa [pageSize, BitVec.toNat_shiftLeft, Nat.one_shiftLeft] using this

/-- A buffer of `1` to `2^32 - 1` bytes takes at least one page. -/
private theorem divRoundUp_ne_zero (hs : pageShift < 32) {x : BitVec 64} (h0 : x ≠ 0)
    (h : x.toNat < 2 ^ 32) : divRoundUp x (pageSize pageShift) ≠ 0 := by
  have hp := toNat_pageSize hs
  have hp1 : 1 ≤ 2 ^ pageShift := Nat.one_le_two_pow
  have hp2 : 2 ^ pageShift ≤ 2 ^ 31 := Nat.pow_le_pow_right (by decide) (by omega)
  have hx : 0 < x.toNat := by
    rcases Nat.eq_zero_or_pos x.toNat with hx | hx
    · exact absurd (BitVec.eq_of_toNat_eq (by simpa using hx)) h0
    · exact hx
  intro hz
  have := congrArg BitVec.toNat hz
  rw [divRoundUp, BitVec.toNat_udiv, BitVec.toNat_sub, BitVec.toNat_add, hp,
    show (1 : BitVec 64).toNat = 1 from rfl, show (0 : BitVec 64).toNat = 0 from rfl,
    Nat.div_eq_zero_iff (by omega)] at this
  omega

/-- `plx_set_config_file` releases an old buffer and zeroes the triple, then records the new
buffer and its mapping, failed or not; `plx_clear_dma_mapped_mem` releases the buffer and leaves
the triple as it is. From an empty triple, after a successful set of up to `2^32 - 2` bytes, one
clear gives everything back, and a second clear, or a set after the clear, releases the same
mapping again; after a failed `dma_map_single`, the first clear unmaps the mapping that was never
made. -/
theorem config_slot_released_twice (hs : pageShift < 32) (buf : List (BitVec 8))
    {count : BitVec 64} (hc : count.toNat + 1 < 2 ^ 32) {ans : SetAnswers} (ha : ans.addr ≠ 0)
    (buf' : List (BitVec 8)) (count' : BitVec 64) (ans' : SetAnswers) :
    (ans.mapError = false → Kernel.run ⟨[], []⟩
      (runCalls pageShift ⟨0, 0, 0⟩ [.set buf count ans, .clear]).2 = some ⟨[], []⟩) ∧
    Kernel.run ⟨[], []⟩ (runCalls pageShift ⟨0, 0, 0⟩ [.set buf count ans, .clear, .clear]).2 =
      none ∧
    Kernel.run ⟨[], []⟩
      (runCalls pageShift ⟨0, 0, 0⟩ [.set buf count ans, .clear, .set buf' count' ans']).2 = none ∧
    (ans.mapError = true → Kernel.run ⟨[], []⟩
      (runCalls pageShift ⟨0, 0, 0⟩ [.set buf count ans, .clear]).2 = none) := by
  have hc1 : (count + 1).toNat = count.toNat + 1 := by
    rw [BitVec.toNat_add, show (1 : BitVec 64).toNat = 1 from rfl, Nat.mod_eq_of_lt (by omega)]
  have hsize : ((count + 1).setWidth 32).setWidth 64 = count + 1 :=
    setWidth_setWidth_of_lt (by omega)
  have hne : divRoundUp (count + 1) (pageSize pageShift) ≠ 0 :=
    divRoundUp_ne_zero hs (fun h => by rw [h] at hc1; simp at hc1) (by omega)
  have hsz : (count + 1).setWidth 32 ≠ 0 := fun h => by
    have : (count + 1).toNat = 0 := by rw [← hsize, h]; rfl
    omega
  have ha' : ¬ ans.addr = 0#64 := ha
  simp only [runCalls, plxSetConfigFile, plxClearDmaMappedMem, ha, hsize, hne, hsz, ne_eq,
    not_false_eq_true, if_true, if_false, List.nil_append, List.append_nil, List.cons_append]
  by_cases ha2 : ans'.addr = 0#64 <;> cases ans.mapError <;>
    simp only [Kernel.run, Kernel.apply, BitVec.ofNat_eq_ofNat, ha', ha2, ↓reduceIte,
      Bool.false_eq_true, Bool.true_eq_false, Option.bind_some, Option.some_bind, Option.none_bind,
      List.mem_cons, true_or, List.erase_cons_head, List.mem_singleton, imp_self, List.not_mem_nil,
      reduceCtorEq, and_self]

end Release

theorem config_slot_released_twice_page4k :
    let ans : SetAnswers := ⟨0x1000, 0x2000, false, 0⟩
    12 < 32 ∧ (10#64).toNat + 1 < 2 ^ 32 ∧ ans.addr ≠ 0 ∧
    ((ans.mapError = false → Kernel.run ⟨[], []⟩
      (runCalls 12 ⟨0, 0, 0⟩ [.set [] 10#64 ans, .clear]).2 = some ⟨[], []⟩) ∧
    Kernel.run ⟨[], []⟩ (runCalls 12 ⟨0, 0, 0⟩ [.set [] 10#64 ans, .clear, .clear]).2 = none ∧
    Kernel.run ⟨[], []⟩
      (runCalls 12 ⟨0, 0, 0⟩ [.set [] 10#64 ans, .clear, .set [] 10#64 ans]).2 = none ∧
    (ans.mapError = true → Kernel.run ⟨[], []⟩
      (runCalls 12 ⟨0, 0, 0⟩ [.set [] 10#64 ans, .clear]).2 = none)) :=
  ⟨by decide, by decide, by decide,
    config_slot_released_twice (by decide) [] (by decide) (by decide) [] 10#64 _⟩

/-! ### The bounds of the new buffer -/

/-- An event touches only the `bytes` bytes from `addr`. -/
def Event.Within (addr : BitVec 64) (bytes : Nat) : Event → Prop
  | .copyToIo a len => a = addr ∧ len.toNat ≤ bytes
  | .readByte a => (a - addr).toNat < bytes
  | .writeByte a => (a - addr).toNat < bytes
  | .dmaMapSingle a len _ _ => a = addr ∧ len.toNat ≤ bytes
  | _ => True

section Bounds

variable {pageShift}

private theorem fls64_zero : fls64 0#64 = 0 := rfl

private theorem toNat_divRoundUp (hs : pageShift < 32) {x : BitVec 64} (hx : x.toNat < 2 ^ 63) :
    (divRoundUp x (pageSize pageShift)).toNat = (x.toNat + 2 ^ pageShift - 1) / 2 ^ pageShift := by
  have hp := toNat_pageSize hs
  have hp1 : 1 ≤ 2 ^ pageShift := Nat.one_le_two_pow
  have hp2 : 2 ^ pageShift ≤ 2 ^ 31 := Nat.pow_le_pow_right (by decide) (by omega)
  rw [divRoundUp, BitVec.toNat_udiv, BitVec.toNat_sub, BitVec.toNat_add, hp,
    show (1 : BitVec 64).toNat = 1 from rfl]
  congr 1
  omega

/-- `get_order` of a page count: for at most `2^PAGE_SHIFT` pages it is 0, one page. -/
private theorem getOrder_of_le {p : BitVec 64} (hp0 : 0 < p.toNat)
    (hp : p.toNat ≤ 2 ^ pageShift) : getOrder pageShift p = 0 := by
  rw [getOrder, show (p - 1) >>> pageShift = 0#64 from ?_, fls64_zero]
  apply BitVec.eq_of_toNat_eq
  rw [BitVec.toNat_ushiftRight, BitVec.toNat_sub, Nat.shiftRight_eq_div_pow,
    show (1 : BitVec 64).toNat = 1 from rfl, BitVec.toNat_ofNat, Nat.zero_mod]
  exact Nat.div_eq_of_lt (by omega)

variable (pageShift)

/-- The bytes `__get_dma_pages` obtains for `count`: `PAGE_SIZE << get_order(pages_num)`. -/
def bufferBytes (count : BitVec 64) : Nat :=
  2 ^ (pageShift + getOrder pageShift (divRoundUp (count + 1) (pageSize pageShift)))

/-- Every read, store, copy and mapping of a successful `plx_set_config_file` lies in the bytes
it obtained. -/
def AccessesWithin (slot : ConfigSlot) (buf : List (BitVec 8)) (count : BitVec 64)
    (ans : SetAnswers) : Prop :=
  ∀ e ∈ (plxSetConfigFile pageShift slot buf count ans).2.1,
    e.Within ans.addr (bufferBytes pageShift count)

variable {pageShift}

private theorem bufferBytes_of_lt (hs : pageShift < 32) {count : BitVec 64}
    (hhi : count.toNat < 2 ^ (2 * pageShift)) : bufferBytes pageShift count = 2 ^ pageShift := by
  have hp := Nat.two_pow_pos pageShift
  have h62 : 2 ^ (2 * pageShift) ≤ 2 ^ 62 := Nat.pow_le_pow_right (by decide) (by omega)
  have hpow : 2 ^ (2 * pageShift) = 2 ^ pageShift * 2 ^ pageShift := by rw [two_mul, Nat.pow_add]
  have hc1 : (count + 1).toNat = count.toNat + 1 := by
    rw [BitVec.toNat_add, show (1 : BitVec 64).toNat = 1 from rfl]; omega
  rw [bufferBytes, getOrder_of_le, Nat.add_zero] <;> rw [toNat_divRoundUp hs (by omega), hc1]
  · exact Nat.div_pos (by omega) hp
  · rw [← Nat.lt_succ_iff, Nat.div_lt_iff_lt_mul hp, Nat.succ_mul, ← hpow]; omega

/-- For a count below `PAGE_SIZE^2` the block obtained is one page, and the accesses of a
successful `plx_set_config_file` lie in it exactly when `0 < count < PAGE_SIZE`: a count of 0
reads `config_file[-1]`, and a count of a page or more maps `count + 1` bytes of it. -/
theorem config_file_accesses_within_iff (hs : pageShift < 32) (slot : ConfigSlot)
    (buf : List (BitVec 8)) {count : BitVec 64} (hhi : count.toNat < 2 ^ (2 * pageShift))
    {ans : SetAnswers} (ha : ans.addr ≠ 0) :
    bufferBytes pageShift count = 2 ^ pageShift ∧
      (AccessesWithin pageShift slot buf count ans ↔
        0 < count.toNat ∧ count.toNat < 2 ^ pageShift) := by
  have hb := bufferBytes_of_lt hs hhi
  have ha' : ¬ ans.addr = 0#64 := ha
  have hp31 : 2 ^ pageShift ≤ 2 ^ 31 := Nat.pow_le_pow_right (by decide) (by omega)
  have h62 : 2 ^ (2 * pageShift) ≤ 2 ^ 62 := Nat.pow_le_pow_right (by decide) (by omega)
  have hone : (1 : BitVec 64).toNat = 1 := rfl
  refine ⟨hb, fun h => ?_, fun ⟨h0, h1⟩ e he => ?_⟩
  · by_contra hc
    rcases Nat.eq_zero_or_pos count.toNat with h0 | h0
    · have := h (.readByte (ans.addr + (count - 1))) (by simp [plxSetConfigFile, ha'])
      simp only [Event.Within, add_sub_cancel_left, hb, BitVec.toNat_sub, hone] at this
      omega
    · have := h (.dmaMapSingle ans.addr (count + 1) ans.handle ans.mapError)
        (by simp [plxSetConfigFile, ha'])
      simp only [Event.Within, hb, BitVec.toNat_add, hone] at this
      omega
  · simp only [plxSetConfigFile, ha, if_false, List.mem_append, List.mem_cons,
      List.mem_singleton, List.not_mem_nil, or_false] at he
    rcases he with hr | rfl | rfl | rfl | rfl | rfl
    · split at hr <;>
        simp only [List.mem_cons, List.mem_singleton, List.not_mem_nil, or_false] at hr
      rcases hr with rfl | rfl <;> trivial
    · trivial
    · exact ⟨rfl, hb ▸ h1.le⟩
    · simp only [Event.Within, add_sub_cancel_left, hb, BitVec.toNat_sub, hone]
      omega
    · simp only [Event.Within, add_sub_cancel_left, hb]
      split_ifs <;> simp only [BitVec.toNat_sub, hone, h1] <;> omega
    · exact ⟨rfl, by simp only [hb, BitVec.toNat_add, hone]; omega⟩

end Bounds

theorem config_file_accesses_within_iff_page4k :
    let ans : SetAnswers := ⟨0x1000, 0x2000, false, 0⟩
    12 < 32 ∧ (4096#64).toNat < 2 ^ (2 * 12) ∧ ans.addr ≠ 0 ∧
      (bufferBytes 12 4096#64 = 2 ^ 12 ∧
        (AccessesWithin 12 ⟨0, 0, 0⟩ [] 4096#64 ans ↔
          0 < (4096#64).toNat ∧ (4096#64).toNat < 2 ^ 12)) :=
  ⟨by decide, by decide, by decide,
    config_file_accesses_within_iff (by decide) _ _ (by decide) (by decide)⟩

end PlxHw.Dma
