import Mathlib.Data.BitVec
import Mathlib.Tactic.Ring

/-!
# Machine words of the PLX87xx driver

The driver computes with `u32` and `u64` values; the model keeps them as `BitVec 32` and
`BitVec 64`, so that every wrap-around of the C arithmetic is in the model. This file proves the
few facts about masks and halves of words that the A-LUT paths of `plx_hw.c` rely on.

* A power-of-two `segment_size` gives the translation mask `segment_size - 1`; `addr & mask` is
  `addr % segment_size` (`toNat_and_translationMask`) and `addr & ~mask` is `addr` rounded down
  to a segment boundary (`toNat_and_not_translationMask`).
* A `u64` is written to two `u32` registers as `(u32)(v >> 32)` and `(u32)v`; the two halves
  give back `v` (`hi32_mul_add_lo32`).

## References

* `src/node-drivers/base-driver/drivers/vca/plx87xx/plx_hw.c`, `plx_add_a_lut_entry`.
-/

namespace PlxHw

/-- The high half `(u32)(v >> 32)` of a `u64`. -/
def hi32 (v : BitVec 64) : BitVec 32 := (v >>> 32).setWidth 32

/-- The low half `(u32)v` of a `u64`. -/
def lo32 (v : BitVec 64) : BitVec 32 := v.setWidth 32

@[simp] theorem toNat_hi32 (v : BitVec 64) : (hi32 v).toNat = v.toNat / 2 ^ 32 := by
  have := v.isLt
  simp only [hi32, BitVec.toNat_setWidth, BitVec.toNat_ushiftRight, Nat.shiftRight_eq_div_pow]
  omega

@[simp] theorem toNat_lo32 (v : BitVec 64) : (lo32 v).toNat = v.toNat % 2 ^ 32 := by
  simp [lo32]

/-- The two halves of a `u64` written to the remap registers give the `u64` back. -/
theorem hi32_mul_add_lo32 (v : BitVec 64) :
    (hi32 v).toNat * 2 ^ 32 + (lo32 v).toNat = v.toNat := by
  simp only [toNat_hi32, toNat_lo32]
  omega

/-- `segment_size - 1`, the `translation_mask` of `plx_add_a_lut_entry`. -/
def translationMask (segmentSize : BitVec 64) : BitVec 64 := segmentSize - 1

section PowerOfTwo

variable {s : BitVec 64} {k : Nat}

private theorem toNat_translationMask (hs : s.toNat = 2 ^ k) : (translationMask s).toNat = 2 ^ k - 1 := by
  have := Nat.two_pow_pos k
  have := s.isLt
  rw [translationMask, BitVec.toNat_sub, hs]
  simp
  omega

/-- `addr & translation_mask` is the offset of `addr` in its segment. -/
theorem toNat_and_translationMask (x : BitVec 64) (hs : s.toNat = 2 ^ k) :
    (x &&& translationMask s).toNat = x.toNat % s.toNat := by
  rw [BitVec.toNat_and, toNat_translationMask hs, Nat.and_pow_two_sub_one_eq_mod, hs]

private theorem toNat_and_not_add_and (x m : BitVec 64) :
    (x &&& ~~~m).toNat + (x &&& m).toNat = x.toNat := by
  have hdis : (x &&& ~~~m) &&& (x &&& m) = 0#64 := by
    ext i
    simp only [BitVec.getLsbD_and, BitVec.getLsbD_not, BitVec.getLsbD_zero]
    cases x.getLsbD i <;> cases m.getLsbD i <;> simp
  have hor : (x &&& ~~~m) + (x &&& m) = x := by
    rw [BitVec.add_eq_or_of_and_eq_zero _ _ hdis]
    ext i
    simp only [BitVec.getLsbD_and, BitVec.getLsbD_not, BitVec.getLsbD_or]
    cases x.getLsbD i <;> cases m.getLsbD i <;> simp
  rw [← BitVec.toNat_add_of_and_eq_zero hdis, hor]

/-- `addr & ~translation_mask` is `addr` rounded down to a segment boundary. -/
theorem toNat_and_not_translationMask (x : BitVec 64) (hs : s.toNat = 2 ^ k) :
    (x &&& ~~~translationMask s).toNat = x.toNat - x.toNat % s.toNat := by
  have h := toNat_and_not_add_and x (translationMask s)
  rw [toNat_and_translationMask x hs] at h
  omega

end PowerOfTwo

end PlxHw
