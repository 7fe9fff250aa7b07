import PlxHw.Eeprom.Update

/-!
# What an update leaves in the EEPROM

Whatever the controller's timing, a run of `plx_update_eeprom` that returns
`PLX_EEP_STATUS_OK` leaves the EEPROM as `writeImage` says: the image written dword by dword, each
dword of offset `o` to the block `blockOf o`, the 2-byte tail merged into the low half of its
block (`update_eeprom_writes_image`). `writeImage` has no controller, no fuel and no `u16`
offset: it is what the loop is for, and the loop refines it.

What the EEPROM should hold after an update is `updatedDword`: dword `k` holds bytes
`[4k, 4k + 4)` of the image, the 2-byte tail in its low half with the high half as it was, and
the dwords past the image are as they were. When the image fits the block address field,
`eeprom_size ≤ 4 * 2^blkAddrBits`, every block is written once and `writeImage` is
`updatedDword` (`update_eeprom_correct_of_fits`).

A larger image does not fit. The block address `offset / 4` is stored in the field
`eep_blk_addr` of `blkAddrBits` bits, and `eep_blk_addr_upper_bit` is set to 0, so dword
`2^blkAddrBits` of the image is written over dword 0, and its read-back reads the same block and
passes. The update returns `PLX_EEP_STATUS_OK` with the bytes of dword `2^blkAddrBits` in
dword 0 of the EEPROM (`update_eeprom_aliases`).

## Main definitions

* `writeImage`: the image written dword by dword to the blocks a map gives.
* `updatedDword`: what each dword of the EEPROM holds after a correct update.

## Main results

* `updateLoop_ok_writeImage`, `update_eeprom_writes_image`: the write loop refines `writeImage`.
* `writeImage_blockOf_of_fits`, `update_eeprom_correct_of_fits`: an image that fits is written
  right.
* `writeImage_blockOf_zero`, `update_eeprom_aliases`: a larger image overwrites dword 0.

## References

* `src/node-drivers/base-driver/drivers/vca/plx87xx/plx_hw.c`, lines 1376–1507 and 1612–1695.
-/

namespace PlxHw.Eeprom

/-! ### The image written dword by dword -/

section WriteImage

variable (blk : Nat → Nat) (eepromData : Nat → BitVec 8) (eepromSize : Nat)

/-- The EEPROM after the writes of the image from byte offset `offset` on: each dword below
`eeprom_size` written to the block `blk` gives its offset, and a 2-byte tail merged into the low
half of its block. -/
def writeImage (offset : Nat) (mem : Nat → BitVec 32) : Nat → BitVec 32 :=
  if offset < eepromSize then
    if eepromSize = offset + 2 then
      Function.update mem (blk offset)
        ((load16 eepromData offset).setWidth 32 ||| (mem (blk offset) &&& 0xFFFF0000))
    else
      writeImage (offset + 4) (Function.update mem (blk offset) (load32 eepromData offset))
  else mem
termination_by eepromSize - offset

/-- What dword `k` of the EEPROM holds after a correct update of the image from `mem`. -/
def updatedDword (mem : Nat → BitVec 32) (k : Nat) : BitVec 32 :=
  if 4 * k < eepromSize then
    if eepromSize = 4 * k + 2 then
      (load16 eepromData (4 * k)).setWidth 32 ||| (mem k &&& 0xFFFF0000)
    else load32 eepromData (4 * k)
  else mem k

variable {blk eepromData eepromSize} {offset : Nat} {mem : Nat → BitVec 32}

private theorem writeImage_of_le (h : eepromSize ≤ offset) :
    writeImage blk eepromData eepromSize offset mem = mem := by
  rw [writeImage, if_neg (Nat.not_lt.2 h)]

private theorem writeImage_tail (h : eepromSize = offset + 2) :
    writeImage blk eepromData eepromSize offset mem = Function.update mem (blk offset)
      ((load16 eepromData offset).setWidth 32 ||| (mem (blk offset) &&& 0xFFFF0000)) := by
  rw [writeImage, if_pos (by omega), if_pos h]

private theorem writeImage_full (hlt : offset < eepromSize) (h2 : eepromSize ≠ offset + 2) :
    writeImage blk eepromData eepromSize offset mem =
      writeImage blk eepromData eepromSize (offset + 4)
        (Function.update mem (blk offset) (load32 eepromData offset)) := by
  rw [writeImage, if_pos hlt, if_neg h2]

/-- A block that no dword offset from `offset` on reaches keeps its value. -/
private theorem writeImage_of_forall_ne {b : Nat}
    (hb : ∀ o, offset ≤ o → o < eepromSize → o % 4 = offset % 4 → blk o ≠ b) :
    writeImage blk eepromData eepromSize offset mem b = mem b := by
  induction offset, mem using writeImage.induct blk eepromData eepromSize with
  | case1 offset mem hlt h2 =>
    rw [writeImage_tail h2, Function.update_noteq (hb offset le_rfl hlt rfl).symm]
  | case2 offset mem hlt h2 ih =>
    rw [writeImage_full hlt h2, ih fun o h1 h3 h4 => hb o (by omega) h3 (by omega),
      Function.update_noteq (hb offset le_rfl hlt rfl).symm]
  | case3 offset mem hlt => rw [writeImage_of_le (Nat.not_lt.1 hlt)]

/-- After `n` full dwords from `offset`, the writes go on from a memory that differs from `mem`
only at the blocks of those dwords. -/
private theorem writeImage_skip (n : Nat) : ∀ (offset : Nat) (mem : Nat → BitVec 32),
    (∀ i < n, offset + 4 * i + 2 < eepromSize) →
    ∃ mem', writeImage blk eepromData eepromSize offset mem =
        writeImage blk eepromData eepromSize (offset + 4 * n) mem' ∧
      ∀ b, (∀ i < n, blk (offset + 4 * i) ≠ b) → mem' b = mem b := by
  induction n with
  | zero => exact fun offset mem _ => ⟨mem, rfl, fun _ _ => rfl⟩
  | succ n ih =>
    intro offset mem hfull
    have h0 := hfull 0 (Nat.succ_pos n)
    obtain ⟨mem', heq, hframe⟩ := ih (offset + 4)
      (Function.update mem (blk offset) (load32 eepromData offset))
      fun i hi => by have := hfull (i + 1) (by omega); omega
    refine ⟨mem', ?_, fun b hb => ?_⟩
    · rw [writeImage_full (by omega) (by omega), heq, show offset + 4 + 4 * n =
        offset + 4 * (n + 1) by omega]
    · have hnext : ∀ i < n, blk (offset + 4 + 4 * i) ≠ b := fun i hi => by
        rw [show offset + 4 + 4 * i = offset + 4 * (i + 1) by omega]
        exact hb (i + 1) (by omega)
      exact (hframe b hnext).trans (Function.update_noteq (hb 0 (Nat.succ_pos n)).symm _ _)

end WriteImage

/-! ### The write loop refines `writeImage` -/

section Refinement

variable {H : EepController} {ready : Nat → Bool} {E : EepConsts} {eepromData : Nat → BitVec 8}
  {eepromSize : BitVec 64}

/-- A run of the write loop that returns `PLX_EEP_STATUS_OK` from a dword offset leaves the
EEPROM as `writeImage` with the blocks `blockOf` gives. The `u16` offset does not wrap in such a
run: a wrap never returns `PLX_EEP_STATUS_OK`. -/
theorem updateLoop_ok_writeImage : ∀ (fuel : Nat) (offset : BitVec 16) (s s' : EepState),
    offset.toNat % 4 = 0 →
    updateLoop H ready eepromData eepromSize fuel offset s = some (.statusOk, s') →
    s'.mem = writeImage (blockOf H) eepromData eepromSize.toNat offset.toNat s.mem
  | 0, _, _, _, _, h => by cases h
  | fuel + 1, offset, s, s', ho, h => by
    rcases updateLoop_ok_cases ho h with ⟨h1, rfl⟩ | ⟨h1, hm⟩ | ⟨hlt, h2, s2, hs2, h1⟩
    · rw [writeImage_of_le h1]
    · rw [hm, writeImage_tail h1]
    · have := offset.isLt
      have h4 : (offset + 4).toNat = offset.toNat + 4 := by
        rw [toNat_add_four]
        by_contra hw
        exact updateLoop_ne_ok (by omega) (by omega) fuel (offset + 4) s2 s'
          (by rw [toNat_add_four]; omega) h1
      rw [updateLoop_ok_writeImage fuel (offset + 4) s2 s' (by omega) h1, h4, hs2,
        writeImage_full hlt h2]

/-- Every run of `plx_update_eeprom` that returns `PLX_EEP_STATUS_OK`, whatever the controller's
timing, was on an image that `eeprom_validate` accepts, and leaves the EEPROM as the image
written dword by dword to the blocks that `blockOf` gives. -/
theorem update_eeprom_writes_image {fuel : Nat} {s s' : EepState}
    (h : plxUpdateEeprom H ready E fuel eepromData eepromSize s = some (.statusOk, s')) :
    eepromValidate E eepromData eepromSize = .statusOk ∧
      s'.mem = writeImage (blockOf H) eepromData eepromSize.toNat 0 s.mem :=
  ⟨(plxUpdateEeprom_eq_ok h).1,
    updateLoop_ok_writeImage fuel 0 s s' rfl (plxUpdateEeprom_eq_ok h).2⟩

end Refinement

theorem update_eeprom_writes_image_smallImage :
    ∃ s', plxUpdateEeprom sampleController (fun _ => true) sampleEepConsts 5 smallImage 14
        ⟨fun _ => 0, 0, 0⟩ = some (.statusOk, s') ∧
      s'.mem = writeImage (blockOf sampleController) smallImage 14 0 (fun _ => 0) := by
  obtain ⟨s', hs'⟩ := @plxUpdateEeprom_alwaysReady_ok sampleController sampleEepConsts smallImage 14
    (by decide) (.inl (by decide)) ⟨fun _ => 0, 0, 0⟩
  exact ⟨s', hs', (update_eeprom_writes_image hs').2⟩

/-! ### Images that fit the block address field, and larger ones -/

section Blocks

variable {H : EepController} {eepromData : Nat → BitVec 8} {eepromSize : Nat}
  {mem : Nat → BitVec 32}

theorem blockOf_of_lt {offset : Nat} (h : offset < 4 * 2 ^ H.blkAddrBits) :
    blockOf H offset = offset / 4 :=
  Nat.mod_eq_of_lt (by omega)

/-- Dwords `2^blkAddrBits` to `2 * 2^blkAddrBits - 1` reach the blocks of dwords 0 onwards. -/
private theorem blockOf_of_lt_two {offset : Nat} (hlo : 4 * 2 ^ H.blkAddrBits ≤ offset)
    (hhi : offset < 8 * 2 ^ H.blkAddrBits) :
    blockOf H offset = offset / 4 - 2 ^ H.blkAddrBits := by
  rw [blockOf, Nat.mod_eq_sub_mod (by omega), Nat.mod_eq_of_lt (by omega)]

/-- When the image fits the block address field, `writeImage` writes each dword of the image to
its own block: the EEPROM ends as `updatedDword` says. -/
theorem writeImage_blockOf_of_fits (hfit : eepromSize ≤ 4 * 2 ^ H.blkAddrBits) :
    writeImage (blockOf H) eepromData eepromSize 0 mem =
      updatedDword eepromData eepromSize mem := by
  funext k
  have hblk : ∀ o < eepromSize, blockOf H o = o / 4 := fun o ho => blockOf_of_lt (by omega)
  rw [updatedDword]
  by_cases hk : 4 * k < eepromSize
  · obtain ⟨mem', heq, hframe⟩ := @writeImage_skip (blockOf H) eepromData eepromSize k 0 mem
      fun i hi => by omega
    have hk4 : blockOf H (4 * k) = k := by rw [hblk _ hk]; omega
    rw [if_pos hk, heq, Nat.zero_add]
    by_cases h2 : eepromSize = 4 * k + 2
    · rw [if_pos h2, writeImage_tail h2, hk4, Function.update_same,
        hframe k fun i hi => by rw [hblk _ (by omega)]; omega]
    · rw [if_neg h2, writeImage_full hk h2,
        writeImage_of_forall_ne fun o h1 ho _ => by rw [hblk o ho]; omega, hk4,
        Function.update_same]
  · rw [if_neg hk]
    exact writeImage_of_forall_ne fun o _ ho _ => by rw [hblk o ho]; omega

/-- When the image has a full dword `2^blkAddrBits` and at most `2 * 2^blkAddrBits` dwords,
`writeImage` leaves that dword in block 0. -/
private theorem writeImage_blockOf_zero (hlo : 4 * 2 ^ H.blkAddrBits + 4 ≤ eepromSize)
    (hhi : eepromSize ≤ 8 * 2 ^ H.blkAddrBits) :
    writeImage (blockOf H) eepromData eepromSize 0 mem 0 =
      load32 eepromData (4 * 2 ^ H.blkAddrBits) := by
  obtain ⟨mem', heq, -⟩ := @writeImage_skip (blockOf H) eepromData eepromSize (2 ^ H.blkAddrBits)
    0 mem fun i hi => by omega
  have h0 : blockOf H (4 * 2 ^ H.blkAddrBits) = 0 := by
    rw [blockOf_of_lt_two le_rfl (by omega)]
    omega
  rw [heq, Nat.zero_add, writeImage_full (by omega) (by omega),
    writeImage_of_forall_ne fun o h1 ho _ => by rw [blockOf_of_lt_two (by omega) (by omega)]; omega,
    h0, Function.update_same]

end Blocks

/-! ### `plx_update_eeprom` -/

section Update

variable {H : EepController} {E : EepConsts} {eepromData : Nat → BitVec 8}
  {eepromSize : BitVec 64}

/-- When the image fits the block address field, every run of `plx_update_eeprom` that returns
`PLX_EEP_STATUS_OK`, whatever the controller's timing, leaves each dword of the EEPROM as
`updatedDword` says. -/
theorem update_eeprom_correct_of_fits (hfit : eepromSize.toNat ≤ 4 * 2 ^ H.blkAddrBits)
    {ready : Nat → Bool} {fuel : Nat} {s s' : EepState}
    (h : plxUpdateEeprom H ready E fuel eepromData eepromSize s = some (.statusOk, s')) :
    s'.mem = updatedDword eepromData eepromSize.toNat s.mem := by
  rw [updateLoop_ok_writeImage fuel 0 s s' rfl (plxUpdateEeprom_eq_ok h).2]
  exact writeImage_blockOf_of_fits hfit

theorem update_eeprom_correct_of_fits_smallImage :
    (14 : BitVec 64).toNat ≤ 4 * 2 ^ sampleController.blkAddrBits ∧
      ∃ s', plxUpdateEeprom sampleController (fun _ => true) sampleEepConsts 5 smallImage 14
        ⟨fun _ => 0, 0, 0⟩ = some (.statusOk, s') ∧
      s'.mem = updatedDword smallImage 14 (fun _ => 0) := by
  obtain ⟨s', hs'⟩ := @plxUpdateEeprom_alwaysReady_ok sampleController sampleEepConsts smallImage 14
    (by decide) (.inl (by decide)) ⟨fun _ => 0, 0, 0⟩
  exact ⟨by decide, s', hs', update_eeprom_correct_of_fits (by decide) hs'⟩

/-- An image with a full dword `2^blkAddrBits` and at most `2 * 2^blkAddrBits` dwords is written
with that dword over dword 0: every run that returns `PLX_EEP_STATUS_OK`, whatever the
controller's timing, leaves bytes `[4 * 2^blkAddrBits, 4 * 2^blkAddrBits + 4)` of the image in
dword 0 of the EEPROM. Such runs exist: with a controller that is always ready, the update of an
accepted image below the wrap returns `PLX_EEP_STATUS_OK`. -/
theorem update_eeprom_aliases (hlo : 4 * 2 ^ H.blkAddrBits + 4 ≤ eepromSize.toNat)
    (hhi : eepromSize.toNat ≤ 8 * 2 ^ H.blkAddrBits) :
    (∀ ready fuel s s',
      plxUpdateEeprom H ready E fuel eepromData eepromSize s = some (.statusOk, s') →
        s'.mem 0 = load32 eepromData (4 * 2 ^ H.blkAddrBits)) ∧
    (eepromValidate E eepromData eepromSize = .statusOk → eepromSize.toNat ≤ 65532 →
      ∀ s, ∃ s', plxUpdateEeprom H (fun _ => true) E ((eepromSize.toNat + 3) / 4 + 1) eepromData
        eepromSize s = some (.statusOk, s')) :=
  ⟨fun _ fuel s s' h => by
      rw [updateLoop_ok_writeImage fuel 0 s s' rfl (plxUpdateEeprom_eq_ok h).2]
      exact writeImage_blockOf_zero hlo hhi,
    fun hv hsize s => plxUpdateEeprom_alwaysReady_ok hv (.inl hsize) s⟩

/-- An image of `32780` bytes: the signature, a `configuration_size` of `32772`, zeros, and a
CRC of all ones, which is the CRC of no dword. -/
def aliasImage (i : Nat) : BitVec 8 :=
  if i = 0 then 0x5A else if i = 2 then 0x04 else if i = 3 then 0x80
  else if 32776 ≤ i then 0xFF else 0

theorem update_eeprom_aliases_aliasImage :
    ∃ s', plxUpdateEeprom sampleController (fun _ => true) sampleEepConsts 8196 aliasImage 32780
        ⟨fun _ => 0, 0, 0⟩ = some (.statusOk, s') ∧
      s'.mem 0 = load32 aliasImage 32768 ∧ load32 aliasImage 32768 ≠ load32 aliasImage 0 := by
  have hv : eepromValidate sampleEepConsts aliasImage 32780 = .statusOk := by decide
  obtain ⟨h1, h2⟩ := @update_eeprom_aliases sampleController sampleEepConsts aliasImage 32780
    (by decide) (by decide)
  obtain ⟨s', hs'⟩ := h2 hv (by decide) ⟨fun _ => 0, 0, 0⟩
  exact ⟨s', hs', h1 _ _ _ _ hs', by decide⟩

end Update

end PlxHw.Eeprom
