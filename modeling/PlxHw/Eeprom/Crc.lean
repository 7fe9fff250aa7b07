import Mathlib.Algebra.Polynomial.Div
import Mathlib.Data.ZMod.Basic
import PlxHw.Basic.MachineWords

/-!
# The CRC of an EEPROM image

`eeprom_check_crc` computes a 32-bit CRC over the words of an EEPROM image between
`PLX_EEP_START_CRC_OFFSET` and the stored CRC, bit by bit: for each word `next_crc_value` an
inner loop of 32 iterations looks at the top bit of `crc_calculated ^ (next_crc_value << i)`,
shifts the register left and xors in `PLX_EEP_CONST_CRC_XOR_VALUE` when that bit was set.

The inner loop is a shift register run on `crc ^ next`, the word entering at the top
(`crcInner_eq`). Reading bit `i` of a `u32` as the coefficient of `X^i` over GF(2) (`toPoly`),
one step of the shift register is a multiplication by `X` modulo
`G = X^32 + PLX_EEP_CONST_CRC_XOR_VALUE` (`toPoly_lfsrStep`), so one word of the inner loop is
one word of polynomial long division, `c ↦ ((c + w) * X^32) mod G` (`toPoly_crcWord`), and the
CRC of an image is the reference MSB-first polynomial CRC of the words the outer loop loads
(`toPoly_crcCalculated`). The constant itself is a parameter: the result holds for every value
of it.

The constants of `plx_hw.h` are not part of the sources; they are parameters (`EepConsts`).

## Main definitions

* `EepConsts`, `PlxEepRetval`, `load32`, `load16`.
* `crcStep`, `crcInner`, `crcWord`: the inner loop; `crcLoop`, `crcWords`, `crcCalculated`,
  `eepromCheckCrc`: the outer loop and the check.
* `toPoly`, `crcGenerator`, `crcPolyStep`: the reference CRC over GF(2).

## Main results

* `crcInner_eq`, `toPoly_lfsrStep_iterate`, `toPoly_crcWord`, `toPoly_crcCalculated`.

## References

* `src/node-drivers/base-driver/drivers/vca/plx87xx/plx_hw.c`, `eeprom_check_crc`, lines
  1509–1549.
-/

open Polynomial

namespace PlxHw.Eeprom

/-- The EEPROM constants of `plx_hw.h` that the EEPROM paths read. -/
structure EepConsts where
  /-- `PLX_EEP_HEADER_LENGTH_BYTE`. -/
  headerLengthByte : Nat
  /-- `PLX_EEP_CRC_LENGTH_BYTE`. -/
  crcLengthByte : Nat
  /-- `PLX_EEP_START_CRC_OFFSET`. -/
  startCrcOffset : Nat
  /-- `PLX_EEP_CONST_CRC_XOR_VALUE`. -/
  constCrcXorValue : BitVec 32
  /-- `PLX_EEP_CONFIGURATION_ALIGNMENT_BYTE`. -/
  configurationAlignmentByte : Nat
  /-- `PLX_EEP_VALIDATION_HEADER`. -/
  validationHeader : BitVec 8

/-- `enum plx_eep_retval`. -/
inductive PlxEepRetval
  | statusOk
  | internalError
  | timeout
  deriving DecidableEq, Repr

/-- `*(u32 *)(eeprom_data + offset)` on the little-endian host. The image `eeprom_data` is the
byte at each offset of the buffer. -/
def load32 (eepromData : Nat → BitVec 8) (offset : Nat) : BitVec 32 :=
  eepromData (offset + 3) ++ eepromData (offset + 2) ++
    eepromData (offset + 1) ++ eepromData offset

/-- `*(u16 *)(eeprom_data + offset)` on the little-endian host. -/
def load16 (eepromData : Nat → BitVec 8) (offset : Nat) : BitVec 16 :=
  eepromData (offset + 1) ++ eepromData offset

/-! ### The bit-serial CRC -/

section Serial

variable (crcXorValue : BitVec 32)

/-- One iteration `i` of the inner loop of `eeprom_check_crc`. -/
def crcStep (nextCrcValue crcCalculated : BitVec 32) (i : Nat) : BitVec 32 :=
  let xorValue := (crcCalculated ^^^ (nextCrcValue <<< i)) &&& (1 : BitVec 32) <<< (31 : Nat)
  let xorValue := if xorValue ≠ 0 then crcXorValue else 0
  (crcCalculated <<< 1) ^^^ xorValue

/-- The first `n` iterations of the inner loop of `eeprom_check_crc` on `next_crc_value`. -/
def crcInner (nextCrcValue : BitVec 32) : Nat → BitVec 32 → BitVec 32
  | 0, crc => crc
  | i + 1, crc => crcStep crcXorValue nextCrcValue (crcInner nextCrcValue i crc) i

/-- The inner loop of `eeprom_check_crc`: the 32 iterations for one word. -/
def crcWord (crc nextCrcValue : BitVec 32) : BitVec 32 := crcInner crcXorValue nextCrcValue 32 crc

/-- The shift register of the CRC: shift left, and xor the constant when the bit shifted out was
set. -/
def lfsrStep (d : BitVec 32) : BitVec 32 := (d <<< 1) ^^^ (if d.msb then crcXorValue else 0)

private theorem getLsbD_one_shiftLeft_31 (i : Nat) :
    ((1 : BitVec 32) <<< (31 : Nat)).getLsbD i = decide (i = 31) := by
  simp only [BitVec.getLsbD_shiftLeft, BitVec.getLsbD_one]
  by_cases h : i = 31
  · simp [h]
  · simp [h]
    omega

private theorem and_top_ne_zero_iff (x : BitVec 32) :
    x &&& (1 : BitVec 32) <<< (31 : Nat) ≠ 0 ↔ x.msb = true := by
  rw [BitVec.msb_eq_getLsbD_last]
  constructor
  · intro h
    by_contra hx
    apply h
    apply BitVec.eq_of_getLsbD_eq
    intro ⟨i, hi⟩
    simp only [BitVec.getLsbD_and, getLsbD_one_shiftLeft_31, BitVec.getLsbD_zero]
    by_cases h31 : i = 31
    · subst h31; simpa using hx
    · simp [h31]
  · intro hx h
    have := congrArg (fun y : BitVec 32 => y.getLsbD 31) h
    simp only [BitVec.getLsbD_and, getLsbD_one_shiftLeft_31, BitVec.getLsbD_zero] at this
    simp_all

/-- After `n` iterations the inner loop holds the shift register run `n` times from
`crc ^ next`, xored with `next << n`: the word enters the register bit by bit at the top. -/
private theorem crcInner_eq (w c : BitVec 32) (n : Nat) :
    crcInner crcXorValue w n c = (lfsrStep crcXorValue)^[n] (c ^^^ w) ^^^ (w <<< n) := by
  induction n with
  | zero => simp [crcInner, BitVec.shiftLeft_zero, BitVec.xor_assoc]
  | succ n ih =>
    rw [crcInner, ih, Function.iterate_succ_apply']
    generalize (lfsrStep crcXorValue)^[n] (c ^^^ w) = d
    have hcancel : d ^^^ (w <<< n) ^^^ (w <<< n) = d := by
      rw [BitVec.xor_assoc, BitVec.xor_self, BitVec.xor_zero]
    simp only [crcStep, lfsrStep, hcancel, and_top_ne_zero_iff, BitVec.shiftLeft_xor_distrib,
      ← BitVec.shiftLeft_add]
    ac_rfl

end Serial

/-! ### GF(2) polynomials -/

section Poly

/-- The polynomial over GF(2) whose coefficient of `X^i` is bit `i` of `x`. -/
noncomputable def toPoly (x : BitVec 32) : (ZMod 2)[X] :=
  ∑ i in Finset.range 32, if x.getLsbD i then X ^ i else 0

/-- Over GF(2) every polynomial is its own negative. -/
private theorem add_self_eq_zero (p : (ZMod 2)[X]) : p + p = 0 := by
  rw [← one_mul p, ← add_mul, ← C_1, ← C_add, show (1 + 1 : ZMod 2) = 0 from rfl, C_0, zero_mul]

private theorem sub_eq_add (p q : (ZMod 2)[X]) : p - q = p + q := by
  rw [sub_eq_add_neg, neg_eq_of_add_eq_zero_right (add_self_eq_zero q)]

@[simp] theorem toPoly_zero : toPoly 0#32 = 0 := by
  simp [toPoly]

private theorem toPoly_xor (a b : BitVec 32) : toPoly (a ^^^ b) = toPoly a + toPoly b := by
  simp only [toPoly, BitVec.getLsbD_xor, ← Finset.sum_add_distrib]
  refine Finset.sum_congr rfl fun i _ => ?_
  cases a.getLsbD i <;> cases b.getLsbD i <;> simp [add_self_eq_zero]

private theorem degree_toPoly_lt (x : BitVec 32) : (toPoly x).degree < (32 : ℕ) := by
  rw [degree_lt_iff_coeff_zero]
  intro m hm
  simp only [toPoly, finset_sum_coeff]
  refine Finset.sum_eq_zero fun i hi => ?_
  have : m ≠ i := by simp at hi; omega
  split <;> simp [coeff_X_pow, this]

/-- Shifting a word left by one multiplies its polynomial by `X`, but for the bit shifted out. -/
private theorem toPoly_shiftLeft_one (d : BitVec 32) :
    toPoly (d <<< 1) + (if d.msb then X ^ 32 else 0) = toPoly d * X := by
  simp only [toPoly, Finset.sum_mul, ite_mul, zero_mul, ← pow_succ]
  rw [Finset.sum_range_succ' _ 31, Finset.sum_range_succ _ 31, BitVec.msb_eq_getLsbD_last]
  simp only [BitVec.getLsbD_shiftLeft]
  have hlow : ∀ i ∈ Finset.range 31, (if (decide (i + 1 < 32) && !decide (i + 1 < 1) &&
      d.getLsbD (i + 1 - 1)) = true then (X : (ZMod 2)[X]) ^ (i + 1) else 0) =
      if d.getLsbD i = true then X ^ (i + 1) else 0 := fun i hi => by
    simp [show i + 1 < 32 by simp at hi; omega]
  rw [Finset.sum_congr rfl hlow]
  simp

variable (crcXorValue : BitVec 32)

/-- The CRC generator `X^32 + PLX_EEP_CONST_CRC_XOR_VALUE`. -/
noncomputable def crcGenerator : (ZMod 2)[X] := X ^ 32 + toPoly crcXorValue

private theorem crcGenerator_monic : (crcGenerator crcXorValue).Monic :=
  monic_X_pow_add (degree_toPoly_lt crcXorValue)

private theorem degree_crcGenerator : (crcGenerator crcXorValue).degree = (32 : ℕ) := by
  rw [crcGenerator, degree_add_eq_left_of_degree_lt] <;> rw [degree_X_pow]
  exact degree_toPoly_lt crcXorValue

/-- A word is its own remainder: its degree is below the generator's. -/
private theorem toPoly_modByMonic (x : BitVec 32) : toPoly x %ₘ crcGenerator crcXorValue = toPoly x :=
  (modByMonic_eq_self_iff (crcGenerator_monic crcXorValue)).mpr
    (degree_crcGenerator crcXorValue ▸ degree_toPoly_lt x)

private theorem mul_X_modByMonic (p : (ZMod 2)[X]) :
    (p %ₘ crcGenerator crcXorValue * X) %ₘ crcGenerator crcXorValue =
      (p * X) %ₘ crcGenerator crcXorValue :=
  modByMonic_eq_of_dvd_sub (crcGenerator_monic crcXorValue)
    ⟨-(p /ₘ crcGenerator crcXorValue) * X, by
      rw [modByMonic_eq_sub_mul_div _ (crcGenerator_monic crcXorValue)]; ring⟩

/-- One step of the shift register multiplies by `X` modulo the generator. -/
private theorem toPoly_lfsrStep (d : BitVec 32) :
    toPoly (lfsrStep crcXorValue d) = (toPoly d * X) %ₘ crcGenerator crcXorValue := by
  rw [← toPoly_modByMonic crcXorValue (lfsrStep crcXorValue d)]
  refine modByMonic_eq_of_dvd_sub (crcGenerator_monic crcXorValue) ?_
  rw [lfsrStep, toPoly_xor, ← toPoly_shiftLeft_one, sub_eq_add]
  by_cases hm : d.msb
  · refine ⟨1, ?_⟩
    simp only [hm, if_true, crcGenerator]
    rw [mul_one, add_add_add_comm, add_self_eq_zero, zero_add, add_comm]
  · refine ⟨0, ?_⟩
    simp [hm, add_self_eq_zero]

theorem toPoly_lfsrStep_iterate (d : BitVec 32) (n : Nat) :
    toPoly ((lfsrStep crcXorValue)^[n] d) = (toPoly d * X ^ n) %ₘ crcGenerator crcXorValue := by
  induction n with
  | zero => simp [toPoly_modByMonic]
  | succ n ih =>
    rw [Function.iterate_succ_apply', toPoly_lfsrStep, ih, mul_X_modByMonic, pow_succ, mul_assoc]

private theorem shiftLeft_32 (w : BitVec 32) : w <<< 32 = 0#32 := by
  apply BitVec.eq_of_getLsbD_eq
  intro ⟨i, hi⟩
  simp [hi]

/-- The 32 iterations of the inner loop are one word of polynomial long division: the register
`c` and the word `w` become `((c + w) * X^32) mod G`. -/
theorem toPoly_crcWord (c w : BitVec 32) :
    toPoly (crcWord crcXorValue c w) =
      ((toPoly c + toPoly w) * X ^ 32) %ₘ crcGenerator crcXorValue := by
  rw [crcWord, crcInner_eq, shiftLeft_32, BitVec.xor_zero, toPoly_lfsrStep_iterate, toPoly_xor]

/-- The reference MSB-first CRC step over GF(2): `c ↦ ((c + w) * X^32) mod G`. -/
noncomputable def crcPolyStep (c : (ZMod 2)[X]) (w : BitVec 32) : (ZMod 2)[X] :=
  ((c + toPoly w) * X ^ 32) %ₘ crcGenerator crcXorValue

theorem toPoly_foldl_crcWord (ws : List (BitVec 32)) (c : BitVec 32) :
    toPoly (ws.foldl (crcWord crcXorValue) c) = ws.foldl (crcPolyStep crcXorValue) (toPoly c) := by
  induction ws generalizing c with
  | nil => rfl
  | cons w ws ih => rw [List.foldl_cons, List.foldl_cons, ih, toPoly_crcWord]; rfl

end Poly

/-! ### `eeprom_check_crc` -/

section CheckCrc

variable (eepromData : Nat → BitVec 8) (crcEndOffset : BitVec 32)

/-- The word the outer loop of `eeprom_check_crc` loads at `crc_offset`: a `u16`, zero-extended,
when two bytes are left before the stored CRC, a `u32` otherwise. -/
def nextCrcValue (crcOffset : BitVec 32) : BitVec 32 :=
  if crcEndOffset - crcOffset = 2 then (load16 eepromData crcOffset.toNat).setWidth 32
  else load32 eepromData crcOffset.toNat

/-- The outer loop of `eeprom_check_crc` from `crc_offset`, for at most `fuel` iterations. -/
def crcLoop (crcXorValue : BitVec 32) : Nat → BitVec 32 → BitVec 32 → BitVec 32
  | 0, _, crcCalculated => crcCalculated
  | fuel + 1, crcOffset, crcCalculated =>
    if crcOffset < crcEndOffset then
      crcLoop crcXorValue fuel (crcOffset + 4)
        (crcWord crcXorValue crcCalculated (nextCrcValue eepromData crcEndOffset crcOffset))
    else crcCalculated

/-- The words the outer loop of `eeprom_check_crc` feeds to the CRC, in order. -/
def crcWords : Nat → BitVec 32 → List (BitVec 32)
  | 0, _ => []
  | fuel + 1, crcOffset =>
    if crcOffset < crcEndOffset then
      nextCrcValue eepromData crcEndOffset crcOffset :: crcWords fuel (crcOffset + 4)
    else []

/-- The outer loop folds the inner loop over the words it loads. -/
theorem crcLoop_eq_foldl (crcXorValue : BitVec 32) (fuel : Nat) (crcOffset crc : BitVec 32) :
    crcLoop eepromData crcEndOffset crcXorValue fuel crcOffset crc =
      (crcWords eepromData crcEndOffset fuel crcOffset).foldl (crcWord crcXorValue) crc := by
  induction fuel generalizing crcOffset crc with
  | zero => rfl
  | succ fuel ih =>
    simp only [crcLoop, crcWords]
    split
    · rw [ih, List.foldl_cons]
    · rfl

end CheckCrc

variable (E : EepConsts)

/-- `crc_end_offset = eeprom_size - PLX_EEP_CRC_LENGTH_BYTE`, a `size_t` stored in a `u32`. -/
def crcEndOffset (eepromSize : BitVec 64) : BitVec 32 :=
  (eepromSize - BitVec.ofNat 64 E.crcLengthByte).setWidth 32

/-- `crc_calculated` at the end of the outer loop of `eeprom_check_crc`, from `~0U`. The loop
advances `crc_offset` by 4 below `crc_end_offset`, so `crc_end_offset` iterations are enough
unless `crc_offset += 4` wraps, which needs `crc_end_offset > 2^32 - 4`: an `eeprom_size` of 1 to
3 modulo `2^32`, which `eeprom_validate` rejects before the call. -/
def crcCalculated (eepromData : Nat → BitVec 8) (eepromSize : BitVec 64) : BitVec 32 :=
  crcLoop eepromData (crcEndOffset E eepromSize) E.constCrcXorValue
    (crcEndOffset E eepromSize).toNat (BitVec.ofNat 32 E.startCrcOffset) (~~~0)

/-- `eeprom_check_crc(xdev, eeprom_data, eeprom_size)`: the computed CRC against the `u32` stored
at `crc_end_offset`. -/
def eepromCheckCrc (eepromData : Nat → BitVec 8) (eepromSize : BitVec 64) : PlxEepRetval :=
  let crcValue := load32 eepromData (crcEndOffset E eepromSize).toNat
  if crcCalculated E eepromData eepromSize ≠ crcValue then .internalError else .statusOk

/-- The CRC `eeprom_check_crc` computes is the reference MSB-first polynomial CRC of the words
its loop loads: each 32-step inner loop takes the register `c` and the word `w` to
`((c + w) * X^32) mod (X^32 + PLX_EEP_CONST_CRC_XOR_VALUE)` over GF(2), from `0xFFFFFFFF`. -/
theorem toPoly_crcCalculated :
    (∀ c w : BitVec 32, toPoly (crcWord E.constCrcXorValue c w) =
      ((toPoly c + toPoly w) * X ^ 32) %ₘ crcGenerator E.constCrcXorValue) ∧
    ∀ (eepromData : Nat → BitVec 8) (eepromSize : BitVec 64),
      toPoly (crcCalculated E eepromData eepromSize) =
        (crcWords eepromData (crcEndOffset E eepromSize) (crcEndOffset E eepromSize).toNat
          (BitVec.ofNat 32 E.startCrcOffset)).foldl (crcPolyStep E.constCrcXorValue)
          (toPoly 0xFFFFFFFF) :=
  ⟨toPoly_crcWord E.constCrcXorValue, fun eepromData eepromSize => by
    rw [crcCalculated, crcLoop_eq_foldl, toPoly_foldl_crcWord]
    rfl⟩

end PlxHw.Eeprom
