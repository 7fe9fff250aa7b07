import PlxHw.ALut.Entry

/-!
# Reading a string written by the other side of the link

`plx_read_dma_mapped_mem` reads with `readq` the size of a string from memory written by the
other side of the link. It maps the string with `plx_ioremap`, copies it into `out_buf` with
`memcpy_fromio`, and terminates it. The size is `min(dma_size_read, out_buf_size - 1)`, taken
on `ssize_t`. A size of `2^63` or more read from the other side is therefore negative and passes
the `min`. It reaches `plx_ioremap` and `memcpy_fromio` as a huge `size_t`, and the NUL store as
an index before `out_buf`. The accesses stay in `out_buf` exactly when the size read is below
`2^63` (`read_dma_mapped_mem_within_iff`).

## Main definitions

* `sMin`, `strnlen`.
* `ReadEvent`, `plxReadDmaMappedMem`, `ReadEvent.Within`.

## Main results

* `sMin_of_two_pow_le`, `toNat_sMin_lt`: the `min` on `ssize_t`.
* `read_dma_mapped_mem_within_iff`.

## References

* `src/node-drivers/base-driver/drivers/vca/plx87xx/plx_hw.c`, lines 1766–1804 and 855–899.
-/

namespace PlxHw.Dma

open ALut

/-- The kernel's `min(x, y)` on two `ssize_t`. -/
def sMin (x y : BitVec 64) : BitVec 64 := if x.slt y then x else y

/-- `strnlen(s, n)`: the index of the first NUL among the first `n` bytes of `s`, or `n`. -/
def strnlen (s : Nat → BitVec 8) : Nat → Nat
  | 0 => 0
  | n + 1 => if strnlen s n < n then strnlen s n else if s n = 0 then n else n + 1

/-- What `plx_read_dma_mapped_mem` asks of the mapping and of `out_buf`. -/
inductive ReadEvent
  /-- `plx_ioremap(xdev, pa, len)`. -/
  | ioremap (pa len : BitVec 64)
  /-- `memcpy_fromio(out_buf, mem, len)`. -/
  | copyFromIo (len : BitVec 64)
  /-- `out_buf[index] = 0`, `index` an `ssize_t`. -/
  | storeNul (index : BitVec 64)
  deriving DecidableEq, Repr

/-- An event stays in the `n` bytes of `out_buf`: fewer than `n` bytes are mapped and copied,
and the NUL is stored at an index below `n`. -/
def ReadEvent.Within (n : Nat) : ReadEvent → Prop
  | .ioremap _ len => len.toNat < n
  | .copyFromIo len => len.toNat < n
  | .storeNul index => index.toNat < n

variable (C : ALutConsts)

/-- `plx_read_dma_mapped_mem(xdev, dma_addr, dma_size, out_buf, out_buf_size)`: `readq` returned
`dmaSizeRead`, `*dma_addr` is `dmaAddr`, the remote buffer holds the bytes `remote`, and the
A-LUT manager answers `ans`. The result is the device after the call, the events, and the return
value. -/
def plxReadDmaMappedMem (xdev : PlxDevice) (dmaAddr dmaSizeRead outBufSize : BitVec 64)
    (remote : Nat → BitVec 8) (ans : AlmAdd) : PlxDevice × List ReadEvent × BitVec 64 :=
  let size := sMin dmaSizeRead (outBufSize - 1)
  if outBufSize = 0 then (xdev, [], 0)
  else
    let (xdev, mem) := plxIoremap C xdev dmaAddr size ans
    if mem = 0 then (xdev, [.ioremap dmaAddr size], 0)
    else
      (plxIounmap C xdev mem, [.ioremap dmaAddr size, .copyFromIo size, .storeNul size],
        BitVec.ofNat 64 (strnlen remote size.toNat))

/-! ### The `min` on `ssize_t` -/

section SMin

variable {x y : BitVec 64}

private theorem toInt_of_lt (h : x.toNat < 2 ^ 63) : x.toInt = x.toNat := by
  rw [BitVec.toInt_eq_toNat_cond, if_pos (by omega)]

private theorem toInt_of_two_pow_le (h : 2 ^ 63 ≤ x.toNat) : x.toInt = x.toNat - 2 ^ 64 := by
  rw [BitVec.toInt_eq_toNat_cond, if_neg (by omega)]
  norm_cast

/-- A value of `2^63` or more is a negative `ssize_t`, below any non-negative one. -/
private theorem sMin_of_two_pow_le (hx : 2 ^ 63 ≤ x.toNat) (hy : y.toNat < 2 ^ 63) : sMin x y = x := by
  rw [sMin, if_pos]
  simp only [BitVec.slt, toInt_of_two_pow_le hx, toInt_of_lt hy, decide_eq_true_eq]
  omega

/-- Of two non-negative `ssize_t`, the `min` is at most the second. -/
private theorem toNat_sMin_le (hx : x.toNat < 2 ^ 63) (hy : y.toNat < 2 ^ 63) :
    (sMin x y).toNat ≤ y.toNat := by
  unfold sMin
  split
  · rename_i h
    simp only [BitVec.slt, toInt_of_lt hx, toInt_of_lt hy, decide_eq_true_eq] at h
    omega
  · exact le_rfl

end SMin

/-! ### The accesses -/

section Accesses

variable {C}

theorem plxReadDmaMappedMem_within_iff {xdev : PlxDevice}
    {dmaAddr dmaSizeRead outBufSize : BitVec 64} {remote : Nat → BitVec 8} {ans : AlmAdd}
    (h0 : outBufSize ≠ 0) (n : Nat) :
    (∀ e ∈ (plxReadDmaMappedMem C xdev dmaAddr dmaSizeRead outBufSize remote ans).2.1,
      e.Within n) ↔ (sMin dmaSizeRead (outBufSize - 1)).toNat < n := by
  simp only [plxReadDmaMappedMem, h0, if_false]
  split <;> simp [ReadEvent.Within]

end Accesses

/-- For an `out_buf` of `1` to `2^63 - 1` bytes (`out_buf_size` a positive `ssize_t`), every
event of `plx_read_dma_mapped_mem` stays in `out_buf` exactly when the size read from the other
side is below `2^63`. A larger one is a negative `ssize_t`: it is the `min`, and is mapped, copied
and stored at as it is. -/
theorem read_dma_mapped_mem_within_iff (xdev : PlxDevice) (dmaAddr : BitVec 64)
    {dmaSizeRead outBufSize : BitVec 64} (remote : Nat → BitVec 8) (ans : AlmAdd)
    (hpos : 0 < outBufSize.toInt) :
    (∀ e ∈ (plxReadDmaMappedMem C xdev dmaAddr dmaSizeRead outBufSize remote ans).2.1,
      e.Within outBufSize.toNat) ↔ dmaSizeRead.toNat < 2 ^ 63 := by
  have hn : outBufSize.toNat < 2 ^ 63 := by
    rw [BitVec.toInt_eq_toNat_cond] at hpos
    split at hpos <;> omega
  have h1 : 0 < outBufSize.toNat := by
    rw [toInt_of_lt hn] at hpos
    omega
  have hsub : (outBufSize - 1).toNat = outBufSize.toNat - 1 := by
    rw [BitVec.toNat_sub, show (1 : BitVec 64).toNat = 1 from rfl]
    omega
  rw [plxReadDmaMappedMem_within_iff (fun h => by simp [h] at h1)]
  constructor
  · intro h
    by_contra hv
    rw [sMin_of_two_pow_le (by omega) (by omega)] at h
    omega
  · intro hv
    have : (sMin dmaSizeRead (outBufSize - 1)).toNat ≤ (outBufSize - 1).toNat :=
      toNat_sMin_le hv (by omega)
    omega

/-- A device on the virtual side of the link, where `plx_ioremap` maps without the A-LUT. -/
def virtualSideDevice : PlxDevice :=
  ⟨fun _ => 0, false, 0, 0, 0, false, false, 1, 0, 0x10000, 0x4000, ⟨0x1000, 0, []⟩⟩

theorem read_dma_mapped_mem_within_iff_virtualSide :
    0 < (16#64).toInt ∧
      ((∀ e ∈ (plxReadDmaMappedMem ALutLayout.twoArraysConsts virtualSideDevice 0x1000 (-1) 16
          (fun _ => 0) .failed).2.1, e.Within (16#64).toNat) ↔ (-1 : BitVec 64).toNat < 2 ^ 63) :=
  ⟨by decide, read_dma_mapped_mem_within_iff ALutLayout.twoArraysConsts _ _ _ _ (by decide)⟩

end PlxHw.Dma
