import PlxHw.Eeprom.Update

/-!
# The loads of the EEPROM paths

`eeprom_check_crc` and the write loop of `plx_update_eeprom` read the image only through
`*(u32 *)(eeprom_data + offset)` and `*(u16 *)(eeprom_data + offset)`, at offsets their loops
compute from `eeprom_size` alone. This file lists those loads (`crcWordLoads`, `crcValueLoad`,
`updateLoads`), shows that the model reads nothing else (`crcCalculated_congr`,
`eepromCheckCrc_congr`, `updateLoop_congr`), and bounds them for every image that passes the
length, alignment and size-match checks of `eeprom_validate` (`eeprom_loads_within`).

Both loops load a `u16` when exactly two bytes of their range are left and a `u32` otherwise, so
they stay inside the range when what is left of it is even at every offset (`crcLoads_within`,
`updateLoads_within`). A validated image is `PLX_EEP_HEADER_LENGTH_BYTE +
PLX_EEP_CRC_LENGTH_BYTE + configuration_size` bytes long, with `configuration_size` a multiple of
`PLX_EEP_CONFIGURATION_ALIGNMENT_BYTE`. With the layout documented above `plx_update_eeprom` (a
4-byte header, entries of a 2-byte address and a 4-byte value, a 4-byte CRC) and a CRC that
starts at an even offset (`EepConsts.FitsLayout`), every load lies in the image, the words of the
CRC in `[PLX_EEP_START_CRC_OFFSET, eeprom_size - PLX_EEP_CRC_LENGTH_BYTE)`, and the stored CRC
is the last four bytes. So the computed CRC depends on no byte outside that range, and
`plx_update_eeprom` on no byte past the end of the image (`update_eeprom_reads_within_image`).

## Main definitions

* `Load`, `Load.Within`, `Load.Agree`.
* `crcLoad`, `crcLoads`, `crcWordLoads`, `crcValueLoad`: the loads of `eeprom_check_crc`.
* `updateLoad`, `updateLoads`: the loads of the write loop.
* `EepConsts.FitsLayout`.

## Main results

* `crcCalculated_congr`, `eepromCheckCrc_congr`, `updateLoop_congr`: the loads are all the
  model reads; `crcWords_eq_map_word`: the CRC words are what the loads read.
* `crcLoads_within`, `updateLoads_within`: the loops stay in a range of even length.
* `eeprom_loads_within`, `update_eeprom_reads_within_image`.

## References

* `src/node-drivers/base-driver/drivers/vca/plx87xx/plx_hw.c`, lines 1509–1594 and 1596–1691.
-/

namespace PlxHw.Eeprom

/-- A load from `eeprom_data`: the `width` bytes from `offset`. -/
structure Load where
  offset : Nat
  width : Nat
  deriving DecidableEq, Repr

namespace Load

/-- The bytes of the load lie in `[lo, hi)`. -/
def Within (l : Load) (lo hi : Nat) : Prop := lo ≤ l.offset ∧ l.offset + l.width ≤ hi

instance (l : Load) (lo hi : Nat) : Decidable (l.Within lo hi) :=
  inferInstanceAs (Decidable (_ ∧ _))

/-- Two images have the same bytes where the load reads. -/
def Agree (l : Load) (d d' : Nat → BitVec 8) : Prop :=
  ∀ i, l.offset ≤ i → i < l.offset + l.width → d i = d' i

/-- Images that agree on a range agree on every load within it. -/
theorem Within.agree {l : Load} {lo hi : Nat} (hl : l.Within lo hi) {d d' : Nat → BitVec 8}
    (h : ∀ i, lo ≤ i → i < hi → d i = d' i) : l.Agree d d' :=
  fun i h1 h2 => h i (by unfold Within at hl; omega) (by unfold Within at hl; omega)

theorem Within.mono {l : Load} {lo hi lo' hi' : Nat} (hl : l.Within lo hi) (hlo : lo' ≤ lo)
    (hhi : hi ≤ hi') : l.Within lo' hi' :=
  ⟨le_trans hlo hl.1, le_trans hl.2 hhi⟩

end Load

variable {d d' : Nat → BitVec 8}

private theorem load32_congr {offset : Nat} (h : Load.Agree ⟨offset, 4⟩ d d') :
    load32 d offset = load32 d' offset := by
  simp only [Load.Agree] at h
  rw [load32, load32, h offset (le_refl _) (by omega), h (offset + 1) (by omega) (by omega),
    h (offset + 2) (by omega) (by omega), h (offset + 3) (by omega) (by omega)]

private theorem load16_congr {offset : Nat} (h : Load.Agree ⟨offset, 2⟩ d d') :
    load16 d offset = load16 d' offset := by
  simp only [Load.Agree] at h
  rw [load16, load16, h offset (le_refl _) (by omega), h (offset + 1) (by omega) (by omega)]

/-- A `u16` load when exactly two bytes are left before `bound` and a `u32` load otherwise, from
an even offset below an even `bound`, ends by `bound`. -/
private theorem add_loadWidth_le {offset bound : Nat} (hb : bound % 2 = 0) (ho : offset % 2 = 0)
    (hlt : offset < bound) : offset + (if bound = offset + 2 then 2 else 4) ≤ bound := by
  split <;> omega

/-! ### The loads of `eeprom_check_crc` -/

section CheckCrc

variable (crcEndOffset : BitVec 32)

/-- The load `next_crc_value` of the outer loop of `eeprom_check_crc` at `crc_offset`. -/
def crcLoad (crcOffset : BitVec 32) : Load :=
  ⟨crcOffset.toNat, if crcEndOffset - crcOffset = 2 then 2 else 4⟩

/-- The loads of the outer loop of `eeprom_check_crc` from `crc_offset`, one for each word of
`crcWords`. -/
def crcLoads : Nat → BitVec 32 → List Load
  | 0, _ => []
  | fuel + 1, crcOffset =>
    if crcOffset < crcEndOffset then
      crcLoad crcEndOffset crcOffset :: crcLoads fuel (crcOffset + 4)
    else []

variable {crcEndOffset}

private theorem nextCrcValue_congr {crcOffset : BitVec 32}
    (h : (crcLoad crcEndOffset crcOffset).Agree d d') :
    nextCrcValue d crcEndOffset crcOffset = nextCrcValue d' crcEndOffset crcOffset := by
  unfold nextCrcValue
  unfold crcLoad at h
  split_ifs at h ⊢
  · rw [load16_congr h]
  · rw [load32_congr h]

/-- The words the loop feeds to the CRC are read from the bytes of its loads only. -/
private theorem crcWords_congr : ∀ {fuel : Nat} {crcOffset : BitVec 32},
    (∀ l ∈ crcLoads crcEndOffset fuel crcOffset, l.Agree d d') →
      crcWords d crcEndOffset fuel crcOffset = crcWords d' crcEndOffset fuel crcOffset
  | 0, _, _ => rfl
  | fuel + 1, crcOffset, h => by
    unfold crcLoads at h
    unfold crcWords
    split_ifs at h ⊢
    · rw [List.forall_mem_cons] at h
      rw [nextCrcValue_congr h.1, crcWords_congr h.2]
    · rfl

/-- The word a load of the CRC loop reads: a `u16`, zero-extended, or a `u32`. -/
def Load.word (d : Nat → BitVec 8) (l : Load) : BitVec 32 :=
  if l.width = 2 then (load16 d l.offset).setWidth 32 else load32 d l.offset

/-- The words the loop feeds to the CRC are what its loads read: a `u32` at each offset, and the
`u16` tail zero-extended. -/
theorem crcWords_eq_map_word : ∀ (fuel : Nat) (crcOffset : BitVec 32),
    crcWords d crcEndOffset fuel crcOffset = (crcLoads crcEndOffset fuel crcOffset).map (Load.word d)
  | 0, _ => rfl
  | fuel + 1, crcOffset => by
    simp only [crcWords, crcLoads]
    split_ifs
    · rw [List.map_cons, crcWords_eq_map_word fuel (crcOffset + 4)]
      by_cases h2 : crcEndOffset - crcOffset = 2 <;> simp [nextCrcValue, Load.word, crcLoad, h2]
    · rfl

private theorem sub_eq_two_iff {crcOffset : BitVec 32} (hlt : crcOffset.toNat < crcEndOffset.toNat) :
    crcEndOffset - crcOffset = 2 ↔ crcEndOffset.toNat = crcOffset.toNat + 2 := by
  rw [BitVec.toNat_eq, BitVec.toNat_sub, show (2 : BitVec 32).toNat = 2 from rfl]
  omega

/-- Below an even `crc_end_offset`, the load at an even `crc_offset` ends by it. -/
private theorem crcLoad_within {lo : Nat} {crcOffset : BitVec 32} (he : crcEndOffset.toNat % 2 = 0)
    (hev : crcOffset.toNat % 2 = 0) (hlo : lo ≤ crcOffset.toNat)
    (hlt : crcOffset.toNat < crcEndOffset.toNat) :
    (crcLoad crcEndOffset crcOffset).Within lo crcEndOffset.toNat := by
  refine ⟨hlo, ?_⟩
  simp only [crcLoad, sub_eq_two_iff hlt]
  exact add_loadWidth_le he hev hlt

/-- Below an even `crc_end_offset` with room for a step past it, the loads of the loop from an
even offset at or above `lo` lie in `[lo, crc_end_offset)`. -/
theorem crcLoads_within {lo : Nat} (he : crcEndOffset.toNat % 2 = 0)
    (hroom : crcEndOffset.toNat + 2 < 2 ^ 32) :
    ∀ {fuel : Nat} {crcOffset : BitVec 32}, crcOffset.toNat % 2 = 0 → lo ≤ crcOffset.toNat →
      ∀ l ∈ crcLoads crcEndOffset fuel crcOffset, l.Within lo crcEndOffset.toNat
  | 0, _, _, _ => List.forall_mem_nil _
  | fuel + 1, crcOffset, hev, hlo => by
    unfold crcLoads
    split_ifs with hlt
    · rw [BitVec.lt_def] at hlt
      have hnext : (crcOffset + 4).toNat = crcOffset.toNat + 4 := by
        rw [BitVec.toNat_add, show (4 : BitVec 32).toNat = 4 from rfl]
        exact Nat.mod_eq_of_lt (by omega)
      exact List.forall_mem_cons.2 ⟨crcLoad_within he hev hlo hlt,
        crcLoads_within he hroom (by omega) (by omega)⟩
    · exact List.forall_mem_nil _

end CheckCrc

variable (E : EepConsts)

/-- The loads of the outer loop of `eeprom_check_crc(xdev, eeprom_data, eeprom_size)`. -/
def crcWordLoads (eepromSize : BitVec 64) : List Load :=
  crcLoads (crcEndOffset E eepromSize) (crcEndOffset E eepromSize).toNat
    (BitVec.ofNat 32 E.startCrcOffset)

/-- The trailing load of `eeprom_check_crc`: the stored `u32` CRC at `crc_end_offset`. -/
def crcValueLoad (eepromSize : BitVec 64) : Load := ⟨(crcEndOffset E eepromSize).toNat, 4⟩

variable {E} {eepromSize : BitVec 64}

theorem crcCalculated_congr (h : ∀ l ∈ crcWordLoads E eepromSize, l.Agree d d') :
    crcCalculated E d eepromSize = crcCalculated E d' eepromSize := by
  rw [crcCalculated, crcCalculated, crcLoop_eq_foldl, crcLoop_eq_foldl, crcWords_congr h]

theorem eepromCheckCrc_congr (h : ∀ l ∈ crcWordLoads E eepromSize, l.Agree d d')
    (hv : (crcValueLoad E eepromSize).Agree d d') :
    eepromCheckCrc E d eepromSize = eepromCheckCrc E d' eepromSize := by
  simp only [eepromCheckCrc, crcCalculated_congr h, load32_congr hv]

/-! ### The loads of the write loop -/

section Update

variable (eepromSize)

/-- The load of the write loop of `plx_update_eeprom` at `offset`: the 2-byte tail, or a dword. -/
def updateLoad (offset : BitVec 16) : Load :=
  ⟨offset.toNat, if eepromSize - offset.setWidth 64 = 2 then 2 else 4⟩

/-- The loads of the write loop from `offset` when no access fails, in order; a run that stops
at an error makes a prefix of them. -/
def updateLoads : Nat → BitVec 16 → List Load
  | 0, _ => []
  | fuel + 1, offset =>
    if offset.setWidth 64 < eepromSize then
      if eepromSize - offset.setWidth 64 = 2 then [updateLoad eepromSize offset]
      else updateLoad eepromSize offset :: updateLoads fuel (offset + 4)
    else []

variable {eepromSize} {H : EepController} {ready : Nat → Bool}

/-- The write loop reads the image at its loads only. -/
theorem updateLoop_congr : ∀ {fuel : Nat} {offset : BitVec 16} (s : EepState),
    (∀ l ∈ updateLoads eepromSize fuel offset, l.Agree d d') →
      updateLoop H ready d eepromSize fuel offset s =
        updateLoop H ready d' eepromSize fuel offset s
  | 0, _, _, _ => rfl
  | fuel + 1, offset, s, h => by
    unfold updateLoads at h
    simp only [updateLoop]
    split_ifs at h ⊢ with hlt h2
    · simp only [List.forall_mem_singleton, updateLoad, h2, if_true] at h
      rw [load16_congr h]
    · simp only [List.forall_mem_cons, updateLoad, h2, if_false] at h
      have ih : ∀ s, updateLoop H ready d eepromSize fuel (offset + 4) s =
          updateLoop H ready d' eepromSize fuel (offset + 4) s :=
        fun s => updateLoop_congr s h.2
      simp only [load32_congr h.1, ih]
    · rfl

/-- Below an even `eeprom_size`, the load at an even `offset` ends by it. -/
private theorem updateLoad_within {offset : BitVec 16} (he : eepromSize.toNat % 2 = 0)
    (hev : offset.toNat % 2 = 0) (hlt : offset.setWidth 64 < eepromSize) :
    (updateLoad eepromSize offset).Within 0 eepromSize.toNat := by
  rw [setWidth_lt_iff] at hlt
  refine ⟨Nat.zero_le _, ?_⟩
  simp only [updateLoad, sub_setWidth_eq_two_iff hlt]
  exact add_loadWidth_le he hev hlt

/-- Below an even `eeprom_size`, the loads of the write loop from an even offset lie in the
image, also after `offset` wraps. -/
theorem updateLoads_within (he : eepromSize.toNat % 2 = 0) :
    ∀ {fuel : Nat} {offset : BitVec 16}, offset.toNat % 2 = 0 →
      ∀ l ∈ updateLoads eepromSize fuel offset, l.Within 0 eepromSize.toNat
  | 0, _, _ => List.forall_mem_nil _
  | fuel + 1, offset, hev => by
    unfold updateLoads
    split_ifs with hlt h2
    · exact List.forall_mem_singleton.2 (updateLoad_within he hev hlt)
    · refine List.forall_mem_cons.2 ⟨updateLoad_within he hev hlt, updateLoads_within he ?_⟩
      rw [toNat_add_four]
      omega
    · exact List.forall_mem_nil _

end Update

/-! ### Images that pass the checks -/

/-- The constants of `plx_hw.h` fit the image layout documented above `plx_update_eeprom`: a
4-byte header, configuration entries of a 2-byte register address and a 4-byte value (so an even
`PLX_EEP_CONFIGURATION_ALIGNMENT_BYTE`), a 4-byte CRC, and a CRC that starts at an even offset
that fits the `u32` `crc_offset`. -/
structure EepConsts.FitsLayout (E : EepConsts) : Prop where
  headerLengthByte_eq : E.headerLengthByte = 4
  crcLengthByte_eq : E.crcLengthByte = 4
  configurationAlignmentByte_even : E.configurationAlignmentByte % 2 = 0
  startCrcOffset_even : E.startCrcOffset % 2 = 0
  startCrcOffset_lt : E.startCrcOffset < 2 ^ 32

section Layout

variable (hE : E.FitsLayout)
include hE

private theorem toNat_crcEndOffset (h4 : 4 ≤ eepromSize.toNat) (hsize : eepromSize.toNat < 2 ^ 32) :
    (crcEndOffset E eepromSize).toNat = eepromSize.toNat - 4 := by
  rw [crcEndOffset, hE.crcLengthByte_eq, BitVec.toNat_setWidth, BitVec.toNat_sub,
    BitVec.toNat_ofNat]
  omega

/-- The words of the CRC of an image of even size lie in `[PLX_EEP_START_CRC_OFFSET,
eeprom_size - 4)`. -/
theorem crcWordLoads_within (he : eepromSize.toNat % 2 = 0) (h4 : 4 ≤ eepromSize.toNat)
    (hsize : eepromSize.toNat < 2 ^ 31) :
    ∀ l ∈ crcWordLoads E eepromSize, l.Within E.startCrcOffset (eepromSize.toNat - 4) := by
  have hend := toNat_crcEndOffset hE h4 (by omega)
  have hstart : (BitVec.ofNat 32 E.startCrcOffset).toNat = E.startCrcOffset := by
    rw [BitVec.toNat_ofNat, Nat.mod_eq_of_lt hE.startCrcOffset_lt]
  rw [← hend]
  exact crcLoads_within (by omega) (by omega) (by rw [hstart]; exact hE.startCrcOffset_even)
    hstart.ge

/-- The stored CRC that `eeprom_check_crc` loads is the last four bytes of the image. -/
theorem crcValueLoad_within (h4 : 4 ≤ eepromSize.toNat) (hsize : eepromSize.toNat < 2 ^ 32) :
    (crcValueLoad E eepromSize).Within (eepromSize.toNat - 4) eepromSize.toNat := by
  have hend := toNat_crcEndOffset hE h4 hsize
  exact ⟨hend.ge, show (crcEndOffset E eepromSize).toNat + 4 ≤ _ by omega⟩

variable {eepromData : Nat → BitVec 8}

/-- An image that passes the length and size-match checks is `configuration_size + 8` bytes
long. -/
private theorem toNat_of_sizeMatch
    (hlen : ¬eepromSize ≤ BitVec.ofNat 64 (E.headerLengthByte + E.crcLengthByte))
    (hmatch : eepromSize - BitVec.ofNat 64 E.headerLengthByte - BitVec.ofNat 64 E.crcLengthByte =
      (load16 eepromData 2).setWidth 64) :
    eepromSize.toNat = (load16 eepromData 2).toNat + 8 := by
  rw [hE.headerLengthByte_eq, hE.crcLengthByte_eq, BitVec.le_def, BitVec.toNat_ofNat] at hlen
  rw [hE.headerLengthByte_eq, hE.crcLengthByte_eq] at hmatch
  have h := congrArg BitVec.toNat hmatch
  rw [BitVec.toNat_sub, BitVec.toNat_sub, toNat_setWidth_u16 _ (by decide),
    BitVec.toNat_ofNat] at h
  omega

/-- An image that passes the alignment check has an even `configuration_size`. -/
private theorem configurationSize_even
    (halign : (load16 eepromData 2).toNat % E.configurationAlignmentByte = 0) :
    (load16 eepromData 2).toNat % 2 = 0 :=
  Nat.mod_eq_zero_of_dvd ((Nat.dvd_of_mod_eq_zero hE.configurationAlignmentByte_even).trans
    (Nat.dvd_of_mod_eq_zero halign))

end Layout

section Validated

variable {eepromData : Nat → BitVec 8}

/-- For an image that passes the length, alignment and size-match checks of `eeprom_validate`,
the words `eeprom_check_crc` feeds to the CRC lie in `[PLX_EEP_START_CRC_OFFSET, eeprom_size -
PLX_EEP_CRC_LENGTH_BYTE)`, its trailing load is the stored CRC `[eeprom_size -
PLX_EEP_CRC_LENGTH_BYTE, eeprom_size)`, and every load of the write loop of `plx_update_eeprom`
lies in `[0, eeprom_size)`, for every number of iterations. -/
theorem eeprom_loads_within (hE : E.FitsLayout)
    (hlen : ¬eepromSize ≤ BitVec.ofNat 64 (E.headerLengthByte + E.crcLengthByte))
    (halign : (load16 eepromData 2).toNat % E.configurationAlignmentByte = 0)
    (hmatch : eepromSize - BitVec.ofNat 64 E.headerLengthByte - BitVec.ofNat 64 E.crcLengthByte =
      (load16 eepromData 2).setWidth 64) :
    (∀ l ∈ crcWordLoads E eepromSize,
      l.Within E.startCrcOffset (eepromSize.toNat - E.crcLengthByte)) ∧
    (crcValueLoad E eepromSize).Within (eepromSize.toNat - E.crcLengthByte) eepromSize.toNat ∧
    ∀ fuel, ∀ l ∈ updateLoads eepromSize fuel 0, l.Within 0 eepromSize.toNat := by
  have hsize := toNat_of_sizeMatch hE hlen hmatch
  have hcfg := configurationSize_even hE halign
  have hlt := (load16 eepromData 2).isLt
  rw [hE.crcLengthByte_eq]
  exact ⟨crcWordLoads_within hE (by omega) (by omega) (by omega),
    crcValueLoad_within hE (by omega) (by omega),
    fun fuel => updateLoads_within (by omega) (by decide)⟩

/-- Values for the constants of `plx_hw.h` as `sampleEepConsts`, with the CRC taken from the
first configuration entry on, at byte 4. -/
def crcEepConsts : EepConsts := ⟨4, 4, 4, 0x04C11DB7, 6, 0x5A⟩

private theorem crcEepConsts_fitsLayout : crcEepConsts.FitsLayout :=
  ⟨rfl, rfl, rfl, rfl, by decide⟩

/-- An image of `14` bytes: the signature, a `configuration_size` of `6`, one entry writing
`0x12345678` to the register `0x60`, and the CRC of the entry under `crcEepConsts`: a `u32` and a
`u16` tail. -/
def entryImage (i : Nat) : BitVec 8 :=
  if i = 0 then 0x5A else if i = 2 then 0x06 else if i = 4 then 0x60
  else if i = 6 then 0x78 else if i = 7 then 0x56 else if i = 8 then 0x34 else if i = 9 then 0x12
  else if i = 10 then 0x96 else if i = 11 then 0xF4 else if i = 12 then 0xE4
  else if i = 13 then 0x1C else 0

set_option maxRecDepth 8000 in
/-- `entryImage` passes `eeprom_validate`, its CRC included. -/
private theorem entryImage_valid : eepromValidate crcEepConsts entryImage 14 = .statusOk := by decide

theorem eeprom_loads_within_entryImage :
    eepromValidate crcEepConsts entryImage 14 = .statusOk ∧
    (∀ l ∈ crcWordLoads crcEepConsts 14, l.Within 4 10) ∧
    (crcValueLoad crcEepConsts 14).Within 10 14 ∧
    ∀ fuel, ∀ l ∈ updateLoads 14 fuel 0, l.Within 0 14 :=
  ⟨entryImage_valid, @eeprom_loads_within crcEepConsts 14 entryImage crcEepConsts_fitsLayout (by decide)
    (by decide) (by decide)⟩

/-- For an image that passes the length, alignment and size-match checks, the CRC that
`eeprom_check_crc` computes depends on no byte outside `[PLX_EEP_START_CRC_OFFSET, eeprom_size -
PLX_EEP_CRC_LENGTH_BYTE)`, and what `plx_update_eeprom` returns and leaves in the EEPROM depends
on no byte past the end of the image, whatever the controller does. -/
theorem update_eeprom_reads_within_image (hE : E.FitsLayout)
    (hlen : ¬eepromSize ≤ BitVec.ofNat 64 (E.headerLengthByte + E.crcLengthByte))
    (halign : (load16 eepromData 2).toNat % E.configurationAlignmentByte = 0)
    (hmatch : eepromSize - BitVec.ofNat 64 E.headerLengthByte - BitVec.ofNat 64 E.crcLengthByte =
      (load16 eepromData 2).setWidth 64) :
    (∀ d' : Nat → BitVec 8,
      (∀ i, E.startCrcOffset ≤ i → i < eepromSize.toNat - E.crcLengthByte →
        d' i = eepromData i) →
        crcCalculated E d' eepromSize = crcCalculated E eepromData eepromSize) ∧
    ∀ d' : Nat → BitVec 8, (∀ i, i < eepromSize.toNat → d' i = eepromData i) →
      ∀ (H : EepController) (ready : Nat → Bool) (fuel : Nat) (s : EepState),
        plxUpdateEeprom H ready E fuel d' eepromSize s =
          plxUpdateEeprom H ready E fuel eepromData eepromSize s := by
  have hsize := toNat_of_sizeMatch hE hlen hmatch
  have hcfg := configurationSize_even hE halign
  have hlt := (load16 eepromData 2).isLt
  have hwords : ∀ l ∈ crcWordLoads E eepromSize,
      l.Within E.startCrcOffset (eepromSize.toNat - 4) :=
    crcWordLoads_within hE (by omega) (by omega) (by omega)
  rw [hE.crcLengthByte_eq]
  refine ⟨fun d' hd => crcCalculated_congr fun l hl => (hwords l hl).agree hd,
    fun d' hd H ready fuel s => ?_⟩
  have hin : ∀ i, 0 ≤ i → i < eepromSize.toNat → d' i = eepromData i := fun i _ => hd i
  have hcrc : eepromCheckCrc E d' eepromSize = eepromCheckCrc E eepromData eepromSize :=
    eepromCheckCrc_congr
      (fun l hl => ((hwords l hl).mono (Nat.zero_le _) (Nat.sub_le _ _)).agree hin)
      (((crcValueLoad_within hE (by omega) (by omega)).mono (Nat.zero_le _) le_rfl).agree hin)
  have hcfg' : load16 d' 2 = load16 eepromData 2 :=
    load16_congr ((show Load.Within ⟨2, 2⟩ 0 eepromSize.toNat from
      ⟨Nat.zero_le _, show 2 + 2 ≤ eepromSize.toNat by omega⟩).agree hin)
  have hloop : ∀ s, updateLoop H ready d' eepromSize fuel 0 s =
      updateLoop H ready eepromData eepromSize fuel 0 s := fun s =>
    updateLoop_congr s fun l hl => (updateLoads_within (by omega) (by decide) l hl).agree hin
  simp only [plxUpdateEeprom, eepromValidate, hcfg', hd 0 (by omega), hcrc, hloop]

theorem update_eeprom_reads_within_image_entryImage :
    eepromValidate crcEepConsts entryImage 14 = .statusOk ∧
    (∀ d' : Nat → BitVec 8, (∀ i, 4 ≤ i → i < 10 → d' i = entryImage i) →
        crcCalculated crcEepConsts d' 14 = crcCalculated crcEepConsts entryImage 14) ∧
    ∀ d' : Nat → BitVec 8, (∀ i, i < 14 → d' i = entryImage i) →
      ∀ (H : EepController) (ready : Nat → Bool) (fuel : Nat) (s : EepState),
        plxUpdateEeprom H ready crcEepConsts fuel d' 14 s =
          plxUpdateEeprom H ready crcEepConsts fuel entryImage 14 s :=
  ⟨entryImage_valid, @update_eeprom_reads_within_image crcEepConsts 14 entryImage crcEepConsts_fitsLayout
    (by decide) (by decide) (by decide)⟩

end Validated

end PlxHw.Eeprom
