import PlxHw.Basic.MachineWords

/-!
# The A-LUT register layout

Each A-LUT entry of a port has three `u32` registers, the permission register and the higher and
lower halves of the remap address, kept in three sub-arrays of the A-LUT array. When a port has
more entries than one physical array holds, the entries from `PLX_A_LUT_MAX_ARRAY` on live in a
second array `PLX_A_LUT_ARRAY_OFFSET` bytes further (`plxGetALutEntryOffset`).

The constants are the chip's and come from `plx_hw.h`, which is not part of the sources; they
are parameters here (`ALutConsts`). An `ALutLayout` adds the two facts about them that the
A-LUT paths rely on: the registers of distinct entries below the table's `capacity`, and the
three registers of one entry, are distinct (`ALutLayout.entryReg_inj`), and the value
`PLX_A_LUT_PERMISSION_READ_ENABLE | PLX_A_LUT_PERMISSION_WRITE_ENABLE` is not zero.

The register window of a device is a function from byte offsets to `u32` values (`Mmio`);
`plxMmioWrite` updates one register.

## Main definitions

* `Mmio`, `plxMmioWrite`: the register window and a write to it.
* `ALutConsts`, `ALutConsts.plxGetALutEntryOffset`, `ALutConsts.entryReg`.
* `ALutLayout`: the constants with their layout facts; `ALutLayout.twoArrays` is one layout.

## Main results

* `ALutLayout.entryReg_inj`: registers of entries below the capacity do not alias, whatever the
  base of the array.

## References

* `src/node-drivers/base-driver/drivers/vca/plx87xx/plx_hw.c`, `plx_get_a_lut_entry_offset`,
  lines 244–258.
-/

namespace PlxHw

/-- The register window of a `plx_device`: `plx_mmio_read` of a byte offset. -/
abbrev Mmio := BitVec 32 → BitVec 32

/-- `plx_mmio_write(mmio, val, offset)`. -/
def plxMmioWrite (mmio : Mmio) (val offset : BitVec 32) : Mmio :=
  Function.update mmio offset val

@[simp] theorem plxMmioWrite_same (mmio : Mmio) (val offset : BitVec 32) :
    plxMmioWrite mmio val offset offset = val :=
  Function.update_same _ _ _

theorem plxMmioWrite_of_ne (mmio : Mmio) (val : BitVec 32) {offset r : BitVec 32}
    (h : r ≠ offset) : plxMmioWrite mmio val offset r = mmio r :=
  Function.update_noteq h _ _

namespace ALut

/-- The three registers of an A-LUT entry. -/
inductive ALutField
  | permission
  | higher
  | lower
  deriving DecidableEq, Repr

/-- The A-LUT constants of `plx_hw.h`. -/
structure ALutConsts where
  /-- `PLX_A_LUT_MAX_ARRAY`: entries in one physical array. -/
  maxArray : BitVec 32
  /-- `PLX_A_LUT_ARRAY_OFFSET`: offset of the second physical array. -/
  arrayOffset : BitVec 32
  /-- `PLX_A_LUT_PERMISSION_SUBARRAY_OFFSET`. -/
  permissionOffset : BitVec 32
  /-- `PLX_A_LUT_HIGHER_RE_MAP_SUBARRAY_OFFSET`. -/
  higherOffset : BitVec 32
  /-- `PLX_A_LUT_LOWER_RE_MAP_SUBARRAY_OFFSET`. -/
  lowerOffset : BitVec 32
  /-- `PLX_A_LUT_PERMISSION_READ_ENABLE`. -/
  readEnable : BitVec 32
  /-- `PLX_A_LUT_PERMISSION_WRITE_ENABLE`. -/
  writeEnable : BitVec 32

namespace ALutConsts

variable (C : ALutConsts)

/-- `plx_get_a_lut_entry_offset(idx)`: the offset of entry `idx` from the start of the first
array; `sizeof(u32)` is the stride of a sub-array. -/
def plxGetALutEntryOffset (idx : BitVec 32) : BitVec 32 :=
  let arrayOffset := if idx ≥ C.maxArray then C.arrayOffset else 0
  arrayOffset + (idx % C.maxArray) * 4

/-- The offset of a sub-array within an entry's array. -/
def subarrayOffset : ALutField → BitVec 32
  | .permission => C.permissionOffset
  | .higher => C.higherOffset
  | .lower => C.lowerOffset

/-- `PLX_A_LUT_PERMISSION_READ_ENABLE | PLX_A_LUT_PERMISSION_WRITE_ENABLE`. -/
def readWrite : BitVec 32 := C.readEnable ||| C.writeEnable

/-- The register of field `f` of entry `i` in the A-LUT array at `base`. -/
def entryReg (base : BitVec 32) (i : Nat) (f : ALutField) : BitVec 32 :=
  base + C.plxGetALutEntryOffset (BitVec.ofNat 32 i) + C.subarrayOffset f

private theorem entryReg_eq_add (base : BitVec 32) (i : Nat) (f : ALutField) :
    C.entryReg base i f = base + C.entryReg 0 i f := by
  simp only [entryReg, zero_add, add_assoc]

end ALutConsts

/-- The A-LUT constants together with the facts about them that the A-LUT paths rely on:
below `capacity`, the table's number of entries, no two registers of the table alias, and the
permission value written for a live entry is not zero. -/
structure ALutLayout extends ALutConsts where
  /-- Entries the chip's A-LUT holds for the port. -/
  capacity : Nat
  entryReg_inj' : ∀ {i j : Nat} {f g : ALutField}, i < capacity → j < capacity →
    toALutConsts.entryReg 0 i f = toALutConsts.entryReg 0 j g → i = j ∧ f = g
  readWrite_ne_zero : toALutConsts.readWrite ≠ 0

namespace ALutLayout

variable (L : ALutLayout)

/-- Registers of entries below the capacity do not alias, whatever the base of the array. -/
theorem entryReg_inj {base : BitVec 32} {i j : Nat} {f g : ALutField} (hi : i < L.capacity)
    (hj : j < L.capacity) (h : L.entryReg base i f = L.entryReg base j g) : i = j ∧ f = g := by
  rw [ALutConsts.entryReg_eq_add, ALutConsts.entryReg_eq_add L.toALutConsts base j] at h
  exact L.entryReg_inj' hi hj (add_left_cancel h)

/-- The constants of `twoArrays`. -/
def twoArraysConsts : ALutConsts := ⟨256, 0x1000, 0x800, 0x400, 0, 1, 2⟩

/-- The sub-array offsets of `twoArrays` are multiples of `0x400` of at most `0x800`. -/
private theorem subarrayOffset_twoArrays (f : ALutField) :
    (twoArraysConsts.subarrayOffset f).toNat % 1024 = 0 ∧
      (twoArraysConsts.subarrayOffset f).toNat ≤ 2048 := by
  cases f <;> decide

private theorem toNat_twoArrays_entryReg {i : Nat} (hi : i < 512) (f : ALutField) :
    (twoArraysConsts.entryReg 0 i f).toNat =
      4096 * (i / 256) + 4 * (i % 256) + (twoArraysConsts.subarrayOffset f).toNat := by
  have hsub := (subarrayOffset_twoArrays f).2
  have hi32 : (BitVec.ofNat 32 i).toNat = i := Nat.mod_eq_of_lt (by omega)
  have hoff : (twoArraysConsts.plxGetALutEntryOffset (BitVec.ofNat 32 i)).toNat =
      4096 * (i / 256) + 4 * (i % 256) := by
    rw [ALutConsts.plxGetALutEntryOffset]
    split_ifs with h <;>
      simp only [BitVec.toNat_add, BitVec.toNat_mul, BitVec.toNat_umod, hi32, ge_iff_le,
        BitVec.le_def, twoArraysConsts, BitVec.ofNat_eq_ofNat, BitVec.toNat_ofNat,
        Nat.reducePow, Nat.reduceMod] at h ⊢ <;> omega
  rw [ALutConsts.entryReg, BitVec.toNat_add, BitVec.toNat_add, hoff]
  simp only [BitVec.ofNat_eq_ofNat, BitVec.toNat_ofNat, Nat.reducePow, Nat.zero_mod, zero_add]
  omega

/-- A layout of two arrays of 256 entries each, with the lower remap, higher remap and
permission sub-arrays `0x400` bytes apart and the second array `0x1000` bytes after the first. -/
def twoArrays : ALutLayout where
  toALutConsts := twoArraysConsts
  capacity := 512
  entryReg_inj' := by
    intro i j f g hi hj h
    have h' := congrArg BitVec.toNat h
    rw [toNat_twoArrays_entryReg hi, toNat_twoArrays_entryReg hj] at h'
    have hf := subarrayOffset_twoArrays f
    have hg := subarrayOffset_twoArrays g
    have hij : i = j ∧ (twoArraysConsts.subarrayOffset f).toNat =
        (twoArraysConsts.subarrayOffset g).toNat := by omega
    refine ⟨hij.1, ?_⟩
    have hfg := hij.2
    revert hfg
    cases f <;> cases g <;> decide
  readWrite_ne_zero := by decide

end ALutLayout

end ALut

end PlxHw
