import PlxHw.ALut.Manager

/-!
# Programming and clearing A-LUT entries

The three A-LUT paths of `plx_hw.c`, each taken under `alm_lock`, so one step of the model:

* `plx_add_a_lut_entry` asks the manager for a run and, for a fresh run, programs each of its
  entries: the higher and lower halves of the running `addr_masked`, then the read/write
  permission, `addr_masked` growing by `segment_size` per entry (`programEntries`). It returns
  `segment_id * segment_size + (addr & translation_mask)`.
* `plx_del_a_lut_entry` rejects an address outside `[0, segments_num * segment_size)`, asks the
  manager to drop a reference to the run of `addr / segment_size`, and clears the permission of
  every entry of a freed run (`clearPermissions`).
* `plx_a_lut_clear` resets the manager and zeroes the three registers of every entry below
  `segments_num` (`clearEntries`).

The barriers and the read-back of the last permission register order the writes on the bus; in
the model every write is done when the next statement runs, so they have no effect. Each loop has
one lemma giving the register of every entry after it (`programEntries_entryReg`,
`clearPermissions_entryReg`, `clearEntries_entryReg`); the later proofs use only these.

`plx_ioremap` and `plx_iounmap` wrap the first two on a device whose `a_lut` flag is set.

## Main definitions

* `PlxDevice`: the fields of `struct plx_device` that the modelled functions read or write.
* `plxAddALutEntry`, `plxDelALutEntry`, `plxALutClear`, `plxIoremap`, `plxIounmap`.

## References

* `src/node-drivers/base-driver/drivers/vca/plx87xx/plx_hw.c`, lines 260–287 and 524–663,
  `plx_ioremap` and `plx_iounmap`, lines 848–899.
-/

namespace PlxHw

/-- The fields of `struct plx_device` that the modelled functions read or write. -/
structure PlxDevice where
  mmio : Mmio
  linkSide : Bool
  portId : BitVec 32
  regBase : BitVec 32
  regBasePeer : BitVec 32
  aLut : Bool
  aLutPeer : Bool
  numNtbs : Nat
  aLutArrayBase : BitVec 32
  aperVa : BitVec 64
  aperLen : BitVec 64
  aLutManager : ALut.PlxAlm

namespace ALut

/-- The value `plx_add_a_lut_entry` writes to field `f` of an entry remapped to `v`. -/
def fieldValue (C : ALutConsts) (v : BitVec 64) : ALutField → BitVec 32
  | .permission => C.readWrite
  | .higher => hi32 v
  | .lower => lo32 v

section Loops

variable (C : ALutConsts) (base : BitVec 32)

/-- The loop of `plx_add_a_lut_entry` over the `n` entries from `i`, `addrMasked` being the
remap address of entry `i`. -/
def programEntries (segmentSize : BitVec 64) : Mmio → Nat → BitVec 64 → Nat → Mmio
  | mmio, _, _, 0 => mmio
  | mmio, i, addrMasked, n + 1 =>
    let entryOffset := base + C.plxGetALutEntryOffset (BitVec.ofNat 32 i)
    let mmio := plxMmioWrite mmio (hi32 addrMasked) (entryOffset + C.higherOffset)
    let mmio := plxMmioWrite mmio (lo32 addrMasked) (entryOffset + C.lowerOffset)
    let mmio := plxMmioWrite mmio C.readWrite (entryOffset + C.permissionOffset)
    programEntries segmentSize mmio (i + 1) (addrMasked + segmentSize) n

/-- The loop of `plx_del_a_lut_entry` over the `n` entries from `i`. -/
def clearPermissions : Mmio → Nat → Nat → Mmio
  | mmio, _, 0 => mmio
  | mmio, i, n + 1 =>
    let permissionOffset := C.plxGetALutEntryOffset (BitVec.ofNat 32 i) + C.permissionOffset
    clearPermissions (plxMmioWrite mmio 0 (base + permissionOffset)) (i + 1) n

/-- The loop of `plx_a_lut_clear` over the `n` entries from `i`, for the array at `offset`. -/
def clearEntries (offset : BitVec 32) : Mmio → Nat → Nat → Mmio
  | mmio, _, 0 => mmio
  | mmio, i, n + 1 =>
    let entryOffset := C.plxGetALutEntryOffset (BitVec.ofNat 32 i) + offset
    let mmio := plxMmioWrite mmio 0 (entryOffset + C.permissionOffset)
    let mmio := plxMmioWrite mmio 0 (entryOffset + C.higherOffset)
    let mmio := plxMmioWrite mmio 0 (entryOffset + C.lowerOffset)
    clearEntries offset mmio (i + 1) n

end Loops

section LoopSpecs

variable (L : ALutLayout) {base : BitVec 32} {i j : Nat}

private theorem ofNat_succ_mul_add (a s : BitVec 64) (k : Nat) :
    a + s + BitVec.ofNat 64 k * s = a + BitVec.ofNat 64 (k + 1) * s := by
  simp only [← BitVec.natCast_eq_ofNat, Nat.cast_add, Nat.cast_one]
  ring

/-- A write to a register of the table changes that register and no other of the table. -/
private theorem write_entryReg (mmio : Mmio) (v : BitVec 32) (f g : ALutField) (hi : i < L.capacity)
    (hj : j < L.capacity) :
    plxMmioWrite mmio v (L.entryReg base i g) (L.entryReg base j f) =
      if j = i ∧ f = g then v else mmio (L.entryReg base j f) := by
  split_ifs with h
  · rw [h.1, h.2, plxMmioWrite_same]
  · exact plxMmioWrite_of_ne _ _ fun h' => h (L.entryReg_inj hj hi h')

/-- The three writes of one iteration of `plx_add_a_lut_entry` set the registers of entry `i`
and no other. -/
private theorem programEntry_entryReg (mmio : Mmio) (a : BitVec 64) (f : ALutField)
    (hi : i < L.capacity) (hj : j < L.capacity) :
    plxMmioWrite (plxMmioWrite (plxMmioWrite mmio (hi32 a)
        (base + L.plxGetALutEntryOffset (BitVec.ofNat 32 i) + L.higherOffset)) (lo32 a)
        (base + L.plxGetALutEntryOffset (BitVec.ofNat 32 i) + L.lowerOffset)) L.readWrite
        (base + L.plxGetALutEntryOffset (BitVec.ofNat 32 i) + L.permissionOffset)
        (L.entryReg base j f) =
      if j = i then fieldValue L.toALutConsts a f else mmio (L.entryReg base j f) := by
  change plxMmioWrite (plxMmioWrite (plxMmioWrite mmio (hi32 a) (L.entryReg base i .higher))
    (lo32 a) (L.entryReg base i .lower)) L.readWrite (L.entryReg base i .permission)
    (L.entryReg base j f) = _
  simp only [write_entryReg L _ _ _ _ hi hj]
  by_cases hji : j = i <;> cases f <;> simp [hji, fieldValue]

/-- The registers of every entry after the loop of `plx_add_a_lut_entry`: entry `i + k` holds
the remap address `addrMasked + k * segment_size` and the read/write permission. -/
theorem programEntries_entryReg (segmentSize : BitVec 64) (f : ALutField) :
    ∀ (n : Nat) (mmio : Mmio) (i : Nat) (addrMasked : BitVec 64), i + n ≤ L.capacity →
      j < L.capacity →
      programEntries L.toALutConsts base segmentSize mmio i addrMasked n (L.entryReg base j f) =
        if i ≤ j ∧ j < i + n then
          fieldValue L.toALutConsts (addrMasked + BitVec.ofNat 64 (j - i) * segmentSize) f
        else mmio (L.entryReg base j f)
  | 0, mmio, i, addrMasked, _, _ => by
    rw [programEntries, if_neg (by omega)]
  | n + 1, mmio, i, addrMasked, hn, hj => by
    rw [programEntries, programEntries_entryReg segmentSize f n _ (i + 1) _ (by omega) hj,
      programEntry_entryReg L _ _ _ (by omega) hj]
    by_cases hji : j = i
    · subst hji
      simp
    · by_cases hr : i < j ∧ j < i + (n + 1)
      · rw [if_pos (by omega), if_pos (by omega), ofNat_succ_mul_add,
          show j - (i + 1) + 1 = j - i by omega]
      · rw [if_neg (show ¬(i + 1 ≤ j ∧ j < i + 1 + n) by omega), if_neg hji,
          if_neg (show ¬(i ≤ j ∧ j < i + (n + 1)) by omega)]

/-- The registers of every entry after the loop of `plx_del_a_lut_entry`: the permissions of the
entries from `i` to `i + n` are cleared. -/
theorem clearPermissions_entryReg (f : ALutField) :
    ∀ (n : Nat) (mmio : Mmio) (i : Nat), i + n ≤ L.capacity → j < L.capacity →
      clearPermissions L.toALutConsts base mmio i n (L.entryReg base j f) =
        if f = .permission ∧ i ≤ j ∧ j < i + n then 0 else mmio (L.entryReg base j f)
  | 0, mmio, i, _, _ => by
    rw [clearPermissions, if_neg (by omega)]
  | n + 1, mmio, i, hn, hj => by
    rw [clearPermissions, ← add_assoc,
      show base + L.plxGetALutEntryOffset (BitVec.ofNat 32 i) + L.permissionOffset =
        L.entryReg base i .permission from rfl,
      clearPermissions_entryReg f n _ (i + 1) (by omega) hj,
      write_entryReg L _ _ _ _ (by omega) hj]
    by_cases hji : j = i
    · subst hji
      simp
    · by_cases hf : f = .permission
      · simp only [hf, hji, false_and, if_false, true_and]
        congr 1
        exact propext (by omega)
      · simp [hf]

/-- The registers of every entry after the loop of `plx_a_lut_clear`: the three registers of the
entries from `i` to `i + n` are zero. -/
theorem clearEntries_entryReg (f : ALutField) :
    ∀ (n : Nat) (mmio : Mmio) (i : Nat), i + n ≤ L.capacity → j < L.capacity →
      clearEntries L.toALutConsts base mmio i n (L.entryReg base j f) =
        if i ≤ j ∧ j < i + n then 0 else mmio (L.entryReg base j f)
  | 0, mmio, i, _, _ => by
    rw [clearEntries, if_neg (by omega)]
  | n + 1, mmio, i, hn, hj => by
    have hreg (g : ALutField) : L.plxGetALutEntryOffset (BitVec.ofNat 32 i) + base +
        L.subarrayOffset g = L.entryReg base i g := by
      rw [ALutConsts.entryReg, add_comm base]
    rw [clearEntries, clearEntries_entryReg f n _ (i + 1) (by omega) hj]
    simp only [ALutConsts.subarrayOffset] at hreg
    rw [hreg .permission, hreg .higher, hreg .lower]
    simp only [write_entryReg L _ _ _ _ (show i < L.capacity by omega) hj]
    by_cases hji : j = i
    · subst hji
      cases f <;> simp
    · simp only [hji, false_and, if_false]
      congr 1
      exact propext (by omega)

end LoopSpecs

/-! ### The A-LUT paths -/

variable (C : ALutConsts)

/-- `plx_add_a_lut_entry(xdev, addr, size, &addr_out)`, where `plx_alm_add_entry` answered
`ans`. Returns the device after the call and `some addr_out` when the call returns 0, `none`
when it returns `-ENOMEM`. The code passes `size` only to `plx_alm_add_entry`, whose answer
`ans` is: `AlmAdd.Valid` relates the two. -/
def plxAddALutEntry (xdev : PlxDevice) (addr _size : BitVec 64) (ans : AlmAdd) :
    PlxDevice × Option (BitVec 64) :=
  let translationMask := translationMask xdev.aLutManager.segmentSize
  let addrMasked := addr &&& ~~~translationMask
  let aLutManager := plxAlmAddEntry xdev.aLutManager addr ans
  let addrOut (segmentId : BitVec 32) : BitVec 64 :=
    segmentId.setWidth 64 * xdev.aLutManager.segmentSize + (addr &&& translationMask)
  match ans with
  | .added segmentId segmentsNum =>
    let mmio := programEntries C xdev.aLutArrayBase xdev.aLutManager.segmentSize xdev.mmio
      segmentId.toNat addrMasked ((segmentId + segmentsNum).toNat - segmentId.toNat)
    ({ xdev with mmio, aLutManager }, some (addrOut segmentId))
  | .eexist segmentId => ({ xdev with aLutManager }, some (addrOut segmentId))
  | .failed => ({ xdev with aLutManager }, none)

@[simp] theorem plxAddALutEntry_aLutManager (xdev : PlxDevice) (addr size : BitVec 64)
    (ans : AlmAdd) :
    (plxAddALutEntry C xdev addr size ans).1.aLutManager = plxAlmAddEntry xdev.aLutManager addr ans := by
  cases ans <;> rfl

@[simp] theorem plxAddALutEntry_aLut (xdev : PlxDevice) (addr size : BitVec 64) (ans : AlmAdd) :
    (plxAddALutEntry C xdev addr size ans).1.aLut = xdev.aLut := by
  cases ans <;> rfl

@[simp] theorem plxAddALutEntry_aperVa (xdev : PlxDevice) (addr size : BitVec 64) (ans : AlmAdd) :
    (plxAddALutEntry C xdev addr size ans).1.aperVa = xdev.aperVa := by
  cases ans <;> rfl

/-- The translated address `plx_add_a_lut_entry` returns for an answer with a segment id. -/
theorem plxAddALutEntry_snd (xdev : PlxDevice) (addr size : BitVec 64) (ans : AlmAdd) :
    (plxAddALutEntry C xdev addr size ans).2 = ans.segmentId?.map fun segmentId =>
      segmentId.setWidth 64 * xdev.aLutManager.segmentSize +
        (addr &&& translationMask xdev.aLutManager.segmentSize) := by
  cases ans <;> rfl

/-- `plx_del_a_lut_entry(xdev, addr)`. `segments_num` is a `u32` and `segment_size` a `u64`,
so the range check compares `addr` with their product as a `u64`. -/
def plxDelALutEntry (xdev : PlxDevice) (addr : BitVec 64) : PlxDevice :=
  let segmentId := (addr / xdev.aLutManager.segmentSize).setWidth 32
  if addr ≥ xdev.aLutManager.segmentsNum.setWidth 64 * xdev.aLutManager.segmentSize then xdev
  else
    let (aLutManager, startSegment, segmentsNum) := plxAlmDelEntry xdev.aLutManager segmentId
    if segmentsNum ≠ 0 then
      { xdev with
        aLutManager
        mmio := clearPermissions C xdev.aLutArrayBase xdev.mmio startSegment.toNat
          ((startSegment + segmentsNum).toNat - startSegment.toNat) }
    else { xdev with aLutManager }

/-- `plx_a_lut_clear(xdev, offset)`. -/
def plxALutClear (xdev : PlxDevice) (offset : BitVec 32) : PlxDevice :=
  let aLutManager := plxAlmReset xdev.aLutManager
  { xdev with
    aLutManager
    mmio := clearEntries C offset xdev.mmio 0 aLutManager.segmentsNum.toNat }

/-- `plx_ioremap(xdev, pa, len)`: the virtual address of the window onto `pa`, `0` (`NULL`) when
the A-LUT entry cannot be added. -/
def plxIoremap (xdev : PlxDevice) (pa len : BitVec 64) (ans : AlmAdd) : PlxDevice × BitVec 64 :=
  if xdev.aLut then
    match plxAddALutEntry C xdev pa len ans with
    | (xdev, some paOut) => (xdev, xdev.aperVa + paOut)
    | (xdev, none) => (xdev, 0)
  else (xdev, xdev.aperVa + pa)

/-- `plx_iounmap(xdev, va)`. -/
def plxIounmap (xdev : PlxDevice) (va : BitVec 64) : PlxDevice :=
  let pa := va - xdev.aperVa
  if xdev.aLut then plxDelALutEntry C xdev pa else xdev

/-- On a device with the A-LUT, unmapping the window `plx_ioremap` returned deletes the entry of
the translated address `plx_add_a_lut_entry` returned: `va - aper.va` gives it back. -/
theorem plxIounmap_plxIoremap {xdev : PlxDevice} (h : xdev.aLut = true) {pa len : BitVec 64}
    {ans : AlmAdd} {paOut : BitVec 64} (hout : (plxAddALutEntry C xdev pa len ans).2 = some paOut) :
    plxIounmap C (plxIoremap C xdev pa len ans).1 (plxIoremap C xdev pa len ans).2 =
      plxDelALutEntry C (plxAddALutEntry C xdev pa len ans).1 paOut := by
  have hA := plxAddALutEntry_aLut C xdev pa len ans
  have hva := plxAddALutEntry_aperVa C xdev pa len ans
  simp only [plxIoremap, h, if_true]
  rcases hp : plxAddALutEntry C xdev pa len ans with ⟨d, o⟩
  rw [hp] at hout hA hva
  cases hout
  dsimp only at hA hva
  simp only [plxIounmap, hA, h, hva, add_sub_cancel_left, if_true]

end ALut

end PlxHw
