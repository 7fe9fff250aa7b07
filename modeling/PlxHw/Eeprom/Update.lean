import PlxHw.Eeprom.Controller

/-!
# Writing an image to the EEPROM

`plx_update_eeprom` validates an image (`eeprom_validate`: its size, its header and its CRC) and
writes it to the EEPROM dword by dword with the accesses of `PlxHw.Eeprom.Controller`, reading
each dword back; an image whose size is 2 modulo 4 ends with a 16-bit write of its last two
bytes. The write loop runs on fuel; a result of `none` means the loop has not ended within the
fuel.

The loop counter `offset` is a `u16`. An image accepted by `eeprom_validate` may be larger than
`65532` bytes, since `configuration_size` is itself a `u16`. Then `offset += 4` wraps to 0 below
`eeprom_size` and the loop starts over: it never returns `PLX_EEP_STATUS_OK`, and with a
controller that is always ready it never returns at all (`update_eeprom_wraps`). Every other size
ends within `ceil(eeprom_size / 4)` iterations and the final check, whatever the controller does
(`update_eeprom_terminates`).

## Main definitions

* `eepromValidate`, `updateLoop`, `plxUpdateEeprom`.

## Main results

* `updateLoop_ok_cases`: what one iteration of a loop that ends in `PLX_EEP_STATUS_OK` did.
* `updateLoop_ne_ok`, `updateLoop_alwaysReady_none`, `update_eeprom_wraps`: the wrap.
* `updateLoop_isSome`, `update_eeprom_terminates`: termination below the wrap.

## References

* `src/node-drivers/base-driver/drivers/vca/plx87xx/plx_hw.c`, lines 1551–1695.
-/

namespace PlxHw.Eeprom

variable (H : EepController) (ready : Nat → Bool)

variable (E : EepConsts)

/-- `eeprom_validate(xdev, eeprom_data, eeprom_size)`: the image is longer than its header and
CRC, its `configuration_size` (the `u16` at byte 2) is a multiple of
`PLX_EEP_CONFIGURATION_ALIGNMENT_BYTE` and is the size of the image without header and CRC, its
first byte is `PLX_EEP_VALIDATION_HEADER`, and its CRC is right. -/
def eepromValidate (eepromData : Nat → BitVec 8) (eepromSize : BitVec 64) : PlxEepRetval :=
  let configurationSize := load16 eepromData 2
  if eepromSize ≤ BitVec.ofNat 64 (E.headerLengthByte + E.crcLengthByte) then .internalError
  else if configurationSize.toNat % E.configurationAlignmentByte ≠ 0 then .internalError
  else if eepromSize - BitVec.ofNat 64 E.headerLengthByte - BitVec.ofNat 64 E.crcLengthByte ≠
      configurationSize.setWidth 64 then .internalError
  else if eepromData 0 ≠ E.validationHeader then .internalError
  else eepromCheckCrc E eepromData eepromSize

/-- The write loop of `plx_update_eeprom` from `offset`, for at most `fuel` iterations: the result
and the state after, or `none` if the loop has not ended. -/
def updateLoop (eepromData : Nat → BitVec 8) (eepromSize : BitVec 64) :
    Nat → BitVec 16 → EepState → Option (PlxEepRetval × EepState)
  | 0, _, _ => none
  | fuel + 1, offset, s =>
    if offset.setWidth 64 < eepromSize then
      -- if eeprom data is not dword aligned
      if eepromSize - offset.setWidth 64 = 2 then
        let value32 := (load16 eepromData offset.toNat).setWidth 32
        match eepromWrite16 H ready s offset (value32.setWidth 16) with
        | (.statusOk, s) =>
          match eepromRead16 H ready s (offset.setWidth 32) with
          | (.statusOk, verifyValue16, s) =>
            if value32.setWidth 16 ≠ verifyValue16 then some (.internalError, s)
            else some (.statusOk, s)
          | (ret, _, s) => some (ret, s)
        | r => some r
      else
        let value32 := load32 eepromData offset.toNat
        match eepromWrite32 H ready s offset value32 with
        | (.statusOk, s) =>
          match eepromRead32 H ready s (offset.setWidth 32) with
          | (.statusOk, verifyValue32, s) =>
            if value32 ≠ verifyValue32 then some (.internalError, s)
            else updateLoop eepromData eepromSize fuel (offset + 4) s
          | (ret, _, s) => some (ret, s)
        | r => some r
    else some (.statusOk, s)

/-- `plx_update_eeprom(xdev, eeprom_data, eeprom_size)`, the write loop running for at most
`fuel` iterations. -/
def plxUpdateEeprom (fuel : Nat) (eepromData : Nat → BitVec 8) (eepromSize : BitVec 64)
    (s : EepState) : Option (PlxEepRetval × EepState) :=
  match eepromValidate E eepromData eepromSize with
  | .statusOk => updateLoop H ready eepromData eepromSize fuel 0 s
  | ret => some (ret, s)

/-! ### The write loop -/

section Loop

variable {H ready} {eepromData : Nat → BitVec 8} {eepromSize : BitVec 64} {s s' : EepState}

theorem setWidth_lt_iff {offset : BitVec 16} :
    offset.setWidth 64 < eepromSize ↔ offset.toNat < eepromSize.toNat := by
  rw [BitVec.lt_def, toNat_setWidth_u16 offset (by decide)]

theorem sub_setWidth_eq_two_iff {offset : BitVec 16} (h : offset.toNat < eepromSize.toNat) :
    eepromSize - offset.setWidth 64 = 2 ↔ eepromSize.toNat = offset.toNat + 2 := by
  rw [BitVec.toNat_eq, BitVec.toNat_sub, toNat_setWidth_u16 offset (by decide),
    show (2 : BitVec 64).toNat = 2 from rfl]
  omega

/-- One iteration of the write loop on a full dword ends with an error of the write or of the
read-back, or writes the dword into the block of `offset`, reads it back, and goes on at
`offset + 4`. -/
private theorem updateLoop_full {fuel : Nat} {offset : BitVec 16} (hlt : offset.toNat < eepromSize.toNat)
    (hne : eepromSize.toNat ≠ offset.toNat + 2) :
    (((eepromWrite32 H ready s offset (load32 eepromData offset.toNat)).1 ≠ .statusOk ∨
        ∃ s1, (eepromRead32 H ready s1 (offset.setWidth 32)).1 ≠ .statusOk) ∧
      ∃ r : PlxEepRetval × EepState, r.1 ≠ .statusOk ∧
        updateLoop H ready eepromData eepromSize (fuel + 1) offset s = some r) ∨
    ∃ s2 : EepState,
      s2.mem = Function.update s.mem (blockOf H offset.toNat) (load32 eepromData offset.toNat) ∧
      updateLoop H ready eepromData eepromSize (fuel + 1) offset s =
        updateLoop H ready eepromData eepromSize fuel (offset + 4) s2 := by
  have h2 : ¬ eepromSize - offset.setWidth 64 = 2 :=
    fun h => hne ((sub_setWidth_eq_two_iff hlt).1 h)
  simp only [updateLoop, setWidth_lt_iff.2 hlt, h2, if_true, if_false]
  rcases hw : eepromWrite32 H ready s offset (load32 eepromData offset.toNat)
    with ⟨_ | _ | _, s1⟩
  · obtain ⟨p, hs1⟩ := eepromWrite32_ok hw
    dsimp only
    rcases hr : eepromRead32 H ready s1 (offset.setWidth 32) with ⟨_ | _ | _, v, s2⟩
    · obtain ⟨hv, q, hs2⟩ := eepromRead32_ok hr
      rw [hs1, toNat_setWidth_u16 offset (by decide)] at hv
      simp only [Function.update_same] at hv
      subst hv
      exact .inr ⟨s2, by rw [hs2, hs1], by simp⟩
    · exact .inl ⟨.inr ⟨s1, by simp [hr]⟩, _, by simp, rfl⟩
    · exact .inl ⟨.inr ⟨s1, by simp [hr]⟩, _, by simp, rfl⟩
  · exact .inl ⟨.inl (by simp [hw]), _, by simp, rfl⟩
  · exact .inl ⟨.inl (by simp [hw]), _, by simp, rfl⟩

/-- An iteration on the 2-byte tail at a dword offset that ends in `PLX_EEP_STATUS_OK` wrote the
tail into the low half of the block of `offset`, its high half read back from the EEPROM. -/
private theorem updateLoop_tail_ok {fuel : Nat} {offset : BitVec 16} (ho : offset.toNat % 4 = 0)
    (h2 : eepromSize.toNat = offset.toNat + 2)
    (h : updateLoop H ready eepromData eepromSize (fuel + 1) offset s = some (.statusOk, s')) :
    s'.mem = Function.update s.mem (blockOf H offset.toNat)
      ((load16 eepromData offset.toNat).setWidth 32 |||
        (s.mem (blockOf H offset.toNat) &&& 0xFFFF0000)) := by
  have hlt : offset.toNat < eepromSize.toNat := by omega
  simp only [updateLoop, setWidth_lt_iff.2 hlt, (sub_setWidth_eq_two_iff hlt).2 h2, if_true] at h
  rcases hw : eepromWrite16 H ready s offset
      (((load16 eepromData offset.toNat).setWidth 32).setWidth 16) with ⟨_ | _ | _, s1⟩ <;>
    rw [hw] at h
  · obtain ⟨p, hs1⟩ := eepromWrite16_ok hw
    dsimp only at h
    rcases hr : eepromRead16 H ready s1 (offset.setWidth 32) with ⟨_ | _ | _, v, s2⟩ <;>
      rw [hr] at h
    · obtain ⟨-, q, rfl⟩ := eepromRead16_ok hr
      dsimp only at h
      split_ifs at h
      · cases h
      · cases h
        have h3 : offset &&& 3#16 = 0#16 := and_three_eq_zero (by decide) ho
        simp [hs1, h3]
    all_goals cases h
  all_goals cases h

/-- What one iteration of the write loop that ends in `PLX_EEP_STATUS_OK` did: the loop was
over, or it wrote the 2-byte tail into the low half of the block of `offset` and stopped, or it
wrote a full dword into the block of `offset`, read it back, and went on. -/
theorem updateLoop_ok_cases {fuel : Nat} {offset : BitVec 16} (ho : offset.toNat % 4 = 0)
    (h : updateLoop H ready eepromData eepromSize (fuel + 1) offset s = some (.statusOk, s')) :
    (eepromSize.toNat ≤ offset.toNat ∧ s' = s) ∨
    (eepromSize.toNat = offset.toNat + 2 ∧ s'.mem = Function.update s.mem (blockOf H offset.toNat)
      ((load16 eepromData offset.toNat).setWidth 32 |||
        (s.mem (blockOf H offset.toNat) &&& 0xFFFF0000))) ∨
    (offset.toNat < eepromSize.toNat ∧ eepromSize.toNat ≠ offset.toNat + 2 ∧
      ∃ s2 : EepState, s2.mem = Function.update s.mem (blockOf H offset.toNat)
          (load32 eepromData offset.toNat) ∧
        updateLoop H ready eepromData eepromSize fuel (offset + 4) s2 = some (.statusOk, s')) := by
  by_cases hlt : offset.toNat < eepromSize.toNat
  · by_cases h2 : eepromSize.toNat = offset.toNat + 2
    · exact .inr (.inl ⟨h2, updateLoop_tail_ok ho h2 h⟩)
    · rcases updateLoop_full hlt h2 with ⟨-, r, hr, heq⟩ | ⟨s2, hs2, heq⟩
      · rw [heq] at h
        cases h
        exact absurd rfl hr
      · exact .inr (.inr ⟨hlt, h2, s2, hs2, heq ▸ h⟩)
  · simp only [updateLoop, setWidth_lt_iff, hlt, if_false, Option.some.injEq, Prod.mk.injEq] at h
    exact .inl ⟨by omega, h.2.symm⟩

theorem toNat_add_four (offset : BitVec 16) : (offset + 4).toNat = (offset.toNat + 4) % 65536 := by
  rw [BitVec.toNat_add]
  rfl

/-- When `eeprom_size` is larger than `65532` and is not `65534`, every `u16` offset is below it
and none is two bytes before it, so the loop never ends with `PLX_EEP_STATUS_OK`. -/
theorem updateLoop_ne_ok (hsize : 65532 < eepromSize.toNat) (h2 : eepromSize.toNat ≠ 65534) :
    ∀ (fuel : Nat) (offset : BitVec 16) (s s' : EepState), offset.toNat % 4 = 0 →
      updateLoop H ready eepromData eepromSize fuel offset s ≠ some (.statusOk, s')
  | 0, _, _, _, _ => by simp [updateLoop]
  | fuel + 1, offset, s, s', ho => fun h => by
    have := offset.isLt
    rcases updateLoop_ok_cases ho h with ⟨h1, -⟩ | ⟨h1, -⟩ | ⟨-, -, s2, -, h1⟩
    · omega
    · omega
    · exact updateLoop_ne_ok hsize h2 fuel (offset + 4) s2 s'
        (by rw [toNat_add_four]; omega) h1

/-- The iteration on the 2-byte tail ends the loop, whatever its accesses return. -/
private theorem updateLoop_tail_isSome {fuel : Nat} {offset : BitVec 16}
    (h2 : eepromSize.toNat = offset.toNat + 2) :
    (updateLoop H ready eepromData eepromSize (fuel + 1) offset s).isSome := by
  have hlt : offset.toNat < eepromSize.toNat := by omega
  simp only [updateLoop, setWidth_lt_iff.2 hlt, (sub_setWidth_eq_two_iff hlt).2 h2, if_true]
  split
  · split
    · split <;> rfl
    · rfl
  · rfl

/-- Below the wrap, the loop from a dword offset ends within `ceil((eeprom_size - offset) / 4)`
iterations and the final check, whatever the controller does. -/
theorem updateLoop_isSome (hsize : eepromSize.toNat ≤ 65532 ∨ eepromSize.toNat = 65534) :
    ∀ (fuel : Nat) (offset : BitVec 16) (s : EepState), offset.toNat % 4 = 0 →
      (eepromSize.toNat - offset.toNat + 3) / 4 + 1 ≤ fuel →
      (updateLoop H ready eepromData eepromSize fuel offset s).isSome
  | 0, _, _, _, hf => absurd hf (by omega)
  | fuel + 1, offset, s, ho, hf => by
    by_cases hlt : offset.toNat < eepromSize.toNat
    · by_cases h2 : eepromSize.toNat = offset.toNat + 2
      · exact updateLoop_tail_isSome h2
      · have h4 : (offset + 4).toNat = offset.toNat + 4 := by rw [toNat_add_four]; omega
        rcases @updateLoop_full H ready eepromData eepromSize s fuel offset hlt h2 with
          ⟨-, r, -, hr⟩ | ⟨s2, -, hr⟩
        · rw [hr]; rfl
        · rw [hr]
          exact updateLoop_isSome hsize fuel (offset + 4) s2 (by omega) (by omega)
    · simp only [updateLoop, setWidth_lt_iff, hlt, if_false]
      rfl

end Loop

section AlwaysReady

variable {H} {s : EepState} {eepromData : Nat → BitVec 8} {eepromSize : BitVec 64}

/-- With a controller that always answers, an iteration on a full dword writes it and goes on. -/
private theorem updateLoop_alwaysReady_full {fuel : Nat} {offset : BitVec 16}
    (hlt : offset.toNat < eepromSize.toNat) (hne : eepromSize.toNat ≠ offset.toNat + 2) :
    ∃ s2 : EepState,
      s2.mem = Function.update s.mem (blockOf H offset.toNat) (load32 eepromData offset.toNat) ∧
      updateLoop H (fun _ => true) eepromData eepromSize (fuel + 1) offset s =
        updateLoop H (fun _ => true) eepromData eepromSize fuel (offset + 4) s2 := by
  rcases updateLoop_full hlt hne with ⟨hw | ⟨s1, hr⟩, -⟩ | h
  · exact absurd (eepromWrite32_alwaysReady _ _) hw
  · exact absurd (eepromRead32_alwaysReady _) hr
  · exact h

/-- With a controller that always answers, an `eeprom_size` larger than `65532` and other than
`65534` keeps the loop going forever. -/
theorem updateLoop_alwaysReady_none (hsize : 65532 < eepromSize.toNat)
    (h2 : eepromSize.toNat ≠ 65534) :
    ∀ (fuel : Nat) (offset : BitVec 16) (s : EepState), offset.toNat % 4 = 0 →
      updateLoop H (fun _ => true) eepromData eepromSize fuel offset s = none
  | 0, _, _, _ => rfl
  | fuel + 1, offset, s, ho => by
    have := offset.isLt
    obtain ⟨s2, -, h⟩ := @updateLoop_alwaysReady_full H s eepromData eepromSize fuel offset
      (by omega) (by omega)
    rw [h]
    exact updateLoop_alwaysReady_none hsize h2 fuel (offset + 4) s2 (by rw [toNat_add_four]; omega)

/-- With a controller that always answers, the iteration on the 2-byte tail at a dword offset
reads back what it wrote and ends the loop with `PLX_EEP_STATUS_OK`. -/
private theorem updateLoop_alwaysReady_tail {fuel : Nat} {offset : BitVec 16} (ho : offset.toNat % 4 = 0)
    (h2 : eepromSize.toNat = offset.toNat + 2) :
    ∃ s', updateLoop H (fun _ => true) eepromData eepromSize (fuel + 1) offset s =
      some (.statusOk, s') := by
  have hlt : offset.toNat < eepromSize.toNat := by omega
  simp only [updateLoop, setWidth_lt_iff.2 hlt, (sub_setWidth_eq_two_iff hlt).2 h2, if_true]
  rcases hw : eepromWrite16 H (fun _ => true) s offset
      (((load16 eepromData offset.toNat).setWidth 32).setWidth 16) with ⟨r, s1⟩
  obtain rfl : r = .statusOk := by rw [← eepromWrite16_alwaysReady, hw]
  obtain ⟨p, hs1⟩ := eepromWrite16_ok hw
  rcases hr : eepromRead16 H (fun _ => true) s1 (offset.setWidth 32) with ⟨r', v, s2⟩
  obtain rfl : r' = .statusOk := by rw [← eepromRead16_alwaysReady, hr]
  obtain ⟨hv, -⟩ := eepromRead16_ok hr
  have hw16 := toNat_setWidth_u16 offset (show 16 ≤ 32 by decide)
  have h3 : offset &&& 3 = 0 := and_three_eq_zero (by decide) ho
  have h3' : offset.setWidth 32 &&& 3 = 0 := and_three_eq_zero (by decide) (by rw [hw16, ho])
  simp only [hs1, hw16, h3, h3', ne_eq, not_true_eq_false, if_false, Function.update_same,
    setWidth_or_and_high] at hv
  dsimp only
  rw [hr]
  exact ⟨s2, by simp [hv]⟩

/-- With a controller that always answers, below the wrap, the loop from a dword offset returns
`PLX_EEP_STATUS_OK` within `ceil((eeprom_size - offset) / 4)` iterations and the final check. -/
theorem updateLoop_alwaysReady_ok (hsize : eepromSize.toNat ≤ 65532 ∨ eepromSize.toNat = 65534) :
    ∀ (fuel : Nat) (offset : BitVec 16) (s : EepState), offset.toNat % 4 = 0 →
      (eepromSize.toNat - offset.toNat + 3) / 4 + 1 ≤ fuel →
      ∃ s', updateLoop H (fun _ => true) eepromData eepromSize fuel offset s = some (.statusOk, s')
  | 0, _, _, _, hf => absurd hf (by omega)
  | fuel + 1, offset, s, ho, hf => by
    by_cases hlt : offset.toNat < eepromSize.toNat
    · by_cases h2 : eepromSize.toNat = offset.toNat + 2
      · exact updateLoop_alwaysReady_tail ho h2
      · have h4 : (offset + 4).toNat = offset.toNat + 4 := by rw [toNat_add_four]; omega
        obtain ⟨s2, -, h⟩ := @updateLoop_alwaysReady_full H s eepromData eepromSize fuel offset
          hlt h2
        rw [h]
        exact updateLoop_alwaysReady_ok hsize fuel (offset + 4) s2 (by omega) (by omega)
    · exact ⟨s, by simp only [updateLoop, setWidth_lt_iff, hlt, if_false]⟩

end AlwaysReady

/-! ### `plx_update_eeprom` -/

section Update

variable {H E} {eepromData : Nat → BitVec 8} {eepromSize : BitVec 64}

/-- `plx_update_eeprom` returns `PLX_EEP_STATUS_OK` only for an image that `eeprom_validate`
accepts, through its write loop from offset 0. -/
theorem plxUpdateEeprom_eq_ok {ready : Nat → Bool} {fuel : Nat} {s s' : EepState}
    (h : plxUpdateEeprom H ready E fuel eepromData eepromSize s = some (.statusOk, s')) :
    eepromValidate E eepromData eepromSize = .statusOk ∧
      updateLoop H ready eepromData eepromSize fuel 0 s = some (.statusOk, s') := by
  unfold plxUpdateEeprom at h
  rcases hv : eepromValidate E eepromData eepromSize with _ | _ | _ <;> rw [hv] at h
  · exact ⟨rfl, h⟩
  · cases h
  · cases h

/-- With a controller that always answers, the update of an accepted image below the wrap
returns `PLX_EEP_STATUS_OK`. -/
theorem plxUpdateEeprom_alwaysReady_ok (hv : eepromValidate E eepromData eepromSize = .statusOk)
    (hsize : eepromSize.toNat ≤ 65532 ∨ eepromSize.toNat = 65534) (s : EepState) :
    ∃ s', plxUpdateEeprom H (fun _ => true) E ((eepromSize.toNat + 3) / 4 + 1) eepromData
      eepromSize s = some (.statusOk, s') := by
  simp only [plxUpdateEeprom, hv]
  exact updateLoop_alwaysReady_ok hsize _ 0 s rfl (by simp)

/-- An image accepted by `eeprom_validate` whose size is above `65532` and is not `65534` makes
the `u16` offset wrap: the update never returns `PLX_EEP_STATUS_OK`, and with a controller that
is always ready it never returns. -/
theorem update_eeprom_wraps (hv : eepromValidate E eepromData eepromSize = .statusOk)
    (hsize : 65532 < eepromSize.toNat) (h2 : eepromSize.toNat ≠ 65534) :
    (∀ ready fuel s s',
      plxUpdateEeprom H ready E fuel eepromData eepromSize s ≠ some (.statusOk, s')) ∧
    ∀ fuel s, plxUpdateEeprom H (fun _ => true) E fuel eepromData eepromSize s = none :=
  ⟨fun _ fuel s s' h => updateLoop_ne_ok hsize h2 fuel 0 s s' rfl (plxUpdateEeprom_eq_ok h).2,
    fun fuel s => by
      simp only [plxUpdateEeprom, hv]
      exact updateLoop_alwaysReady_none hsize h2 fuel 0 s rfl⟩

/-- Below the wrap, `plx_update_eeprom` returns within `ceil(eeprom_size / 4)` iterations of its
loop and the final check, whatever the controller does. -/
theorem update_eeprom_terminates (hsize : eepromSize.toNat ≤ 65532 ∨ eepromSize.toNat = 65534)
    (ready : Nat → Bool) (s : EepState) :
    (plxUpdateEeprom H ready E ((eepromSize.toNat + 3) / 4 + 1) eepromData eepromSize
      s).isSome := by
  unfold plxUpdateEeprom
  split
  · exact updateLoop_isSome hsize _ 0 s rfl (by simp)
  · rfl

end Update

/-- Values for the constants of `plx_hw.h`: a header of 4 bytes, a CRC of 4 bytes, the CRC
polynomial `0x04C11DB7`, configuration entries of 6 bytes and the signature `0x5A`. The CRC is
taken from byte `65532` on, so that it covers at most one dword of the images below. -/
def sampleEepConsts : EepConsts := ⟨4, 4, 65532, 0x04C11DB7, 6, 0x5A⟩

/-- A controller with a 13-bit field `eep_blk_addr` that is polled at most 100 times. -/
def sampleController : EepController := ⟨13, 100⟩

/-- An image of `65540` bytes: the signature, a `configuration_size` of `65532`, zeros, and the
CRC of its last dword of configuration. -/
def largeImage (i : Nat) : BitVec 8 :=
  if i = 0 then 0x5A else if i = 2 then 0xFC else if i = 3 then 0xFF
  else if i = 65536 then 0x7B else if i = 65537 then 0xDD else if i = 65538 then 0x04
  else if i = 65539 then 0xC7 else 0

set_option maxRecDepth 8000 in
theorem update_eeprom_wraps_largeImage :
    eepromValidate sampleEepConsts largeImage 65540 = .statusOk ∧
      65532 < (65540 : BitVec 64).toNat ∧ (65540 : BitVec 64).toNat ≠ 65534 ∧
      ∀ fuel s, plxUpdateEeprom sampleController (fun _ => true) sampleEepConsts fuel largeImage
        65540 s = none :=
  have hv : eepromValidate sampleEepConsts largeImage 65540 = .statusOk := by decide
  ⟨hv, by decide, by decide, (update_eeprom_wraps hv (by decide) (by decide)).2⟩

/-- An image of `14` bytes: the signature, a `configuration_size` of `6`, zeros, and a CRC of all
ones, which is the CRC of no dword. Its size ends it with a 2-byte tail. -/
def smallImage (i : Nat) : BitVec 8 :=
  if i = 0 then 0x5A else if i = 2 then 0x06 else if 10 ≤ i then 0xFF else 0

theorem update_eeprom_terminates_neverReady :
    eepromValidate sampleEepConsts smallImage 14 = .statusOk ∧
      ((14 : BitVec 64).toNat ≤ 65532 ∨ (14 : BitVec 64).toNat = 65534) ∧
      (plxUpdateEeprom sampleController (fun _ => false) sampleEepConsts ((14 + 3) / 4 + 1)
        smallImage 14 ⟨fun _ => 0, 0, 0⟩).isSome :=
  ⟨by decide, .inl (by decide), @update_eeprom_terminates sampleController sampleEepConsts
    smallImage 14 (.inl (by decide)) (fun _ => false) ⟨fun _ => 0, 0, 0⟩⟩

end PlxHw.Eeprom
