import PlxHw.Eeprom.Image

/-!
# What a failed access or a failed update leaves in the EEPROM

The controller executes a `WRITE` command when the driver writes it to the status register, before
the driver polls for its completion; a poll that times out does not undo it. So an access that
fails may have taken effect. Whatever the controller's timing and whatever they return,
`eeprom_read32` and `eeprom_read16` leave the EEPROM as it was, `eeprom_write32` leaves it as it
was or with its dword in the block of its offset, and `eeprom_write16` as it was or with its
half-word in the half of that block its offset selects, the other half kept.

`plx_update_eeprom` writes the image dword by dword and returns at the first failed access or
read-back. When the image fits the block address field and its `u16` offset does not wrap, every
run that ends, whatever it returns, leaves a prefix of the image: the blocks below some `n` hold
the dwords of the image, the blocks above `n` what they held, and block `n` one or the other
(`update_eeprom_prefix_written`). An interrupted update leaves no dword torn and no dword in
another's block.

## Main definitions

* `PrefixWritten`: the blocks from `lo` below `n` written as `updatedDword` says, the others as
  they were, block `n` either.

## Main results

* `eepromRead32_mem`, `eepromRead16_mem`, `eepromWrite32_mem`, `eepromWrite16_mem`.
* `updateLoop_prefixWritten`, `update_eeprom_prefix_written`.

## References

* `src/node-drivers/base-driver/drivers/vca/plx87xx/plx_hw.c`, lines 1309–1507 and 1612–1695.
-/

namespace PlxHw.Eeprom

/-! ### Accesses, whatever they return -/

section Access

variable {H : EepController} {ready : Nat → Bool}

theorem waitForAccessReady_mem (n : Nat) (s : EepState) :
    (waitForAccessReady H ready n s).2.mem = s.mem := by
  obtain ⟨p, hp⟩ := @waitForAccessReady_eq H ready n s
  rw [hp]

/-- A command takes effect when it is written; the wait for its completion changes nothing
more. -/
theorem eepromSendCmd_mem (s : EepState) (cmd : EepCmd) (blkAddr : BitVec H.blkAddrBits)
    (upper : Bool) :
    (eepromSendCmd H ready s cmd blkAddr upper).2.mem = (execCmd H s cmd blkAddr upper).mem := by
  obtain ⟨p, hp⟩ := @waitForCmdComplete_eq ready (waitPolls H) (execCmd H s cmd blkAddr upper)
  rw [eepromSendCmd, hp]

/-- `eeprom_read32` leaves the EEPROM as it was, whatever it returns. -/
theorem eepromRead32_mem (s : EepState) (offset : BitVec 32) :
    (eepromRead32 H ready s offset).2.2.mem = s.mem := by
  have hw := @waitForAccessReady_mem H ready (waitPolls H) s
  unfold eepromRead32
  rcases hw' : waitForAccessReady H ready (waitPolls H) s with ⟨_ | _ | _, s1⟩ <;>
    rw [hw'] at hw <;> dsimp only
  · have hc := @eepromSendCmd_mem H ready s1 .read
      (BitVec.ofNat H.blkAddrBits (offset / 4).toNat) false
    rcases hc' : eepromSendCmd H ready s1 .read (BitVec.ofNat H.blkAddrBits (offset / 4).toNat)
      false with ⟨_ | _ | _, s2⟩ <;> rw [hc'] at hc <;> exact hc.trans hw
  · exact hw
  · exact hw

/-- `eeprom_read16` leaves the EEPROM as it was, whatever it returns. -/
theorem eepromRead16_mem (s : EepState) (offset : BitVec 32) :
    (eepromRead16 H ready s offset).2.2.mem = s.mem := by
  have hr := @eepromRead32_mem H ready s (offset &&& ~~~3)
  unfold eepromRead16
  rcases hr' : eepromRead32 H ready s (offset &&& ~~~3) with ⟨_ | _ | _, v, s1⟩ <;>
    rw [hr'] at hr <;> exact hr

/-- `eeprom_write32` leaves the EEPROM as it was or with its value in the block of its offset,
whatever it returns. -/
theorem eepromWrite32_mem (s : EepState) (offset : BitVec 16) (v : BitVec 32) :
    (eepromWrite32 H ready s offset v).2.mem = s.mem ∨
      (eepromWrite32 H ready s offset v).2.mem =
        Function.update s.mem (blockOf H offset.toNat) v := by
  have hw := @waitForAccessReady_mem H ready (waitPolls H) s
  unfold eepromWrite32
  rcases hw' : waitForAccessReady H ready (waitPolls H) s with ⟨_ | _ | _, s1⟩ <;>
    rw [hw'] at hw <;> dsimp only
  · have he := @eepromSendCmd_mem H ready s1 .writeEnable 0 false
    rcases he' : eepromSendCmd H ready s1 .writeEnable 0 false with ⟨_ | _ | _, s2⟩ <;>
      rw [he'] at he <;> dsimp only
    · right
      rw [eepromSendCmd_mem]
      simp only [execCmd, toNat_blkAddr offset (by decide), Bool.false_eq_true, if_false,
        Nat.add_zero]
      rw [he]
      show Function.update s1.mem _ v = _
      rw [show s1.mem = s.mem from hw]
    · exact .inl (he.trans hw)
    · exact .inl (he.trans hw)
  · exact .inl hw
  · exact .inl hw

/-- `eeprom_write16` leaves the EEPROM as it was or with the dword it merges, whatever it
returns. -/
private theorem eepromWrite16_mem_merge (s : EepState) (offset value16 : BitVec 16) :
    let old := s.mem (blockOf H offset.toNat)
    let value32 := if offset &&& 3 ≠ 0 then (value16.setWidth 32 <<< 16) ||| (old &&& 0xFFFF)
      else value16.setWidth 32 ||| (old &&& 0xFFFF0000)
    (eepromWrite16 H ready s offset value16).2.mem = s.mem ∨
      (eepromWrite16 H ready s offset value16).2.mem =
        Function.update s.mem (blockOf H offset.toNat) value32 := by
  intro old value32
  have hr := @eepromRead32_mem H ready s ((offset &&& ~~~3).setWidth 32)
  unfold eepromWrite16
  rcases hr' : eepromRead32 H ready s ((offset &&& ~~~3).setWidth 32) with ⟨_ | _ | _, v, s1⟩ <;>
    rw [hr'] at hr <;> dsimp only
  · obtain ⟨rfl, p, rfl⟩ := eepromRead32_ok hr'
    have hw : ((offset &&& ~~~3).setWidth 32).toNat = (offset &&& ~~~3).toNat :=
      toNat_setWidth_u16 _ (by decide)
    refine (@eepromWrite32_mem H ready _ (offset &&& ~~~3) _).imp id fun h => ?_
    rw [h, hw, blockOf_and_not_three]
  · exact .inl hr
  · exact .inl hr

private theorem mask_high : (0xFFFF0000 : BitVec 32) = ~~~((BitVec.allOnes 16).setWidth 32) := by
  decide

private theorem mask_low : (0xFFFF : BitVec 32) = (BitVec.allOnes 16).setWidth 32 := by decide

/-- The merge of `eeprom_write16` at a dword offset: the new half-word low, the old high half. -/
private theorem merge_low (value16 : BitVec 16) (old : BitVec 32) :
    (value16.setWidth 32 ||| (old &&& 0xFFFF0000)).extractLsb' 0 16 = value16 ∧
      (value16.setWidth 32 ||| (old &&& 0xFFFF0000)).extractLsb' 16 16 = old.extractLsb' 16 16 := by
  rw [mask_high]
  constructor <;> apply BitVec.eq_of_getLsbD_eq <;> intro ⟨i, hi⟩ <;>
    simp only [BitVec.getLsbD_extractLsb', BitVec.getLsbD_or, BitVec.getLsbD_and,
      BitVec.getLsbD_not, BitVec.getLsbD_setWidth, BitVec.getLsbD_allOnes] <;>
    simp [hi, show i < 32 by omega, show 16 + i < 32 by omega, show ¬ 16 + i < 16 by omega]

/-- The merge of `eeprom_write16` at another offset: the new half-word high, the old low half. -/
private theorem merge_high (value16 : BitVec 16) (old : BitVec 32) :
    ((value16.setWidth 32 <<< 16) ||| (old &&& 0xFFFF)).extractLsb' 16 16 = value16 ∧
      ((value16.setWidth 32 <<< 16) ||| (old &&& 0xFFFF)).extractLsb' 0 16 =
        old.extractLsb' 0 16 := by
  rw [mask_low]
  constructor <;> apply BitVec.eq_of_getLsbD_eq <;> intro ⟨i, hi⟩ <;>
    simp only [BitVec.getLsbD_extractLsb', BitVec.getLsbD_or, BitVec.getLsbD_and,
      BitVec.getLsbD_shiftLeft, BitVec.getLsbD_setWidth, BitVec.getLsbD_allOnes] <;>
    simp [hi, show i < 32 by omega, show 16 + i < 32 by omega, show ¬ 16 + i < 16 by omega]

/-- `eeprom_write16` leaves the EEPROM as it was, or with the block of its offset changed in one
half only: at a dword offset the low half holds the new half-word, elsewhere the high half does,
and the other half is kept; whatever it returns. -/
theorem eepromWrite16_mem (s : EepState) (offset value16 : BitVec 16) :
    (eepromWrite16 H ready s offset value16).2.mem = s.mem ∨
      ∃ v : BitVec 32, (eepromWrite16 H ready s offset value16).2.mem =
          Function.update s.mem (blockOf H offset.toNat) v ∧
        if offset &&& 3 = 0 then
          v.extractLsb' 0 16 = value16 ∧
            v.extractLsb' 16 16 = (s.mem (blockOf H offset.toNat)).extractLsb' 16 16
        else
          v.extractLsb' 16 16 = value16 ∧
            v.extractLsb' 0 16 = (s.mem (blockOf H offset.toNat)).extractLsb' 0 16 := by
  refine (eepromWrite16_mem_merge s offset value16).imp id fun h => ⟨_, h, ?_⟩
  by_cases h3 : offset &&& 3 = 0
  · rw [if_pos h3, if_neg (not_not_intro h3)]
    exact merge_low value16 (s.mem (blockOf H offset.toNat))
  · rw [if_neg h3, if_pos h3]
    exact merge_high value16 (s.mem (blockOf H offset.toNat))

end Access

/-! ### Interrupted updates -/

/-- The EEPROM `mem'` holds the dwords of the image, as `updatedDword` gives them from `mem`, in
the blocks from `lo` below `n`, what `mem` held in the blocks outside `[lo, n]`, and in block `n`
one or the other. -/
def PrefixWritten (eepromData : Nat → BitVec 8) (eepromSize : Nat) (mem mem' : Nat → BitVec 32)
    (lo n : Nat) : Prop :=
  ∀ k, (lo ≤ k → k < n → mem' k = updatedDword eepromData eepromSize mem k) ∧
    (k < lo ∨ n < k → mem' k = mem k) ∧
    (mem' k = mem k ∨ mem' k = updatedDword eepromData eepromSize mem k)

section Prefix

variable {eepromData : Nat → BitVec 8} {eepromSize : Nat} {mem mem' : Nat → BitVec 32}

private theorem updatedDword_update_of_ne {b k : Nat} (v : BitVec 32) (h : k ≠ b) :
    updatedDword eepromData eepromSize (Function.update mem b v) k =
      updatedDword eepromData eepromSize mem k := by
  simp only [updatedDword, Function.update_noteq h]

/-- A memory that is `mem`, or `mem` with block `b` written as `updatedDword` says, is a prefix
ending at `b`. -/
private theorem prefixWritten_of_eq_or {b : Nat}
    (h : mem' = mem ∨ mem' = Function.update mem b (updatedDword eepromData eepromSize mem b)) :
    PrefixWritten eepromData eepromSize mem mem' b b := by
  intro k
  refine ⟨fun h1 h2 => absurd h2 (by omega), fun hk => ?_, ?_⟩
  · rcases h with rfl | rfl
    · rfl
    · exact Function.update_noteq (by omega) _ _
  · rcases h with rfl | rfl
    · exact .inl rfl
    · by_cases hkb : k = b
      · subst hkb
        exact .inr (Function.update_same _ _ _)
      · exact .inl (Function.update_noteq hkb _ _)

/-- A prefix from `b + 1` written over `mem` with block `b` written is a prefix from `b`. -/
private theorem PrefixWritten.cons {b n : Nat} (hn : b < n)
    (h : PrefixWritten eepromData eepromSize
      (Function.update mem b (updatedDword eepromData eepromSize mem b)) mem' (b + 1) n) :
    PrefixWritten eepromData eepromSize mem mem' b n := by
  intro k
  obtain ⟨hin, hout, heither⟩ := h k
  by_cases hkb : k = b
  · subst hkb
    have hk : mem' k = updatedDword eepromData eepromSize mem k := by
      rw [hout (.inl (Nat.lt_succ_self k)), Function.update_same]
    exact ⟨fun _ _ => hk, fun h' => absurd h' (by omega), .inr hk⟩
  · simp only [updatedDword_update_of_ne _ hkb, Function.update_noteq hkb] at hin hout heither
    exact ⟨fun h1 h2 => hin (by omega) h2, fun h' => hout (by omega), heither⟩

end Prefix

section Loop

variable {H : EepController} {ready : Nat → Bool} {eepromData : Nat → BitVec 8}
  {eepromSize : BitVec 64} {s : EepState}

/-- One iteration of the write loop on a full dword returns with the EEPROM as it was or with
the dword in the block of `offset`, or writes the dword there and goes on at `offset + 4`. -/
private theorem updateLoop_full_mem {fuel : Nat} {offset : BitVec 16}
    (hlt : offset.toNat < eepromSize.toNat) (hne : eepromSize.toNat ≠ offset.toNat + 2) :
    (∃ r : PlxEepRetval × EepState,
      updateLoop H ready eepromData eepromSize (fuel + 1) offset s = some r ∧
      (r.2.mem = s.mem ∨ r.2.mem =
        Function.update s.mem (blockOf H offset.toNat) (load32 eepromData offset.toNat))) ∨
    ∃ s2 : EepState,
      s2.mem = Function.update s.mem (blockOf H offset.toNat) (load32 eepromData offset.toNat) ∧
      updateLoop H ready eepromData eepromSize (fuel + 1) offset s =
        updateLoop H ready eepromData eepromSize fuel (offset + 4) s2 := by
  have h2 : ¬ eepromSize - offset.setWidth 64 = 2 :=
    fun h => hne ((sub_setWidth_eq_two_iff hlt).1 h)
  simp only [updateLoop, setWidth_lt_iff.2 hlt, h2, if_true, if_false]
  have hw := @eepromWrite32_mem H ready s offset (load32 eepromData offset.toNat)
  rcases hw' : eepromWrite32 H ready s offset (load32 eepromData offset.toNat)
    with ⟨_ | _ | _, s1⟩ <;> rw [hw'] at hw
  · obtain ⟨p, hs1⟩ := eepromWrite32_ok hw'
    have hm1 : s1.mem =
        Function.update s.mem (blockOf H offset.toNat) (load32 eepromData offset.toNat) := by
      rw [hs1]
    have hr := @eepromRead32_mem H ready s1 (offset.setWidth 32)
    dsimp only
    rcases hr' : eepromRead32 H ready s1 (offset.setWidth 32) with ⟨_ | _ | _, v, s2⟩ <;>
      rw [hr'] at hr
    · dsimp only
      split_ifs
      · exact .inl ⟨_, rfl, .inr (hr.trans hm1)⟩
      · exact .inr ⟨s2, hr.trans hm1, rfl⟩
    · exact .inl ⟨_, rfl, .inr (hr.trans hm1)⟩
    · exact .inl ⟨_, rfl, .inr (hr.trans hm1)⟩
  · exact .inl ⟨_, rfl, hw⟩
  · exact .inl ⟨_, rfl, hw⟩

/-- The iteration on the 2-byte tail at a dword offset returns with the EEPROM as it was or with
the tail in the low half of the block of `offset`. -/
private theorem updateLoop_tail_mem {fuel : Nat} {offset : BitVec 16} (ho : offset.toNat % 4 = 0)
    (h2 : eepromSize.toNat = offset.toNat + 2) :
    ∃ r : PlxEepRetval × EepState,
      updateLoop H ready eepromData eepromSize (fuel + 1) offset s = some r ∧
      (r.2.mem = s.mem ∨ r.2.mem = Function.update s.mem (blockOf H offset.toNat)
        ((load16 eepromData offset.toNat).setWidth 32 |||
          (s.mem (blockOf H offset.toNat) &&& 0xFFFF0000))) := by
  have hlt : offset.toNat < eepromSize.toNat := by omega
  have h3 : offset &&& 3 = 0 := and_three_eq_zero (by decide) ho
  have hv : ((load16 eepromData offset.toNat).setWidth 32).setWidth 16 =
      load16 eepromData offset.toNat := by
    rw [BitVec.setWidth_setWidth_of_le _ (by decide), BitVec.setWidth_eq]
  have hw := @eepromWrite16_mem_merge H ready s offset (load16 eepromData offset.toNat)
  simp only [h3, ne_eq, not_true_eq_false, if_false] at hw
  simp only [updateLoop, setWidth_lt_iff.2 hlt, (sub_setWidth_eq_two_iff hlt).2 h2, if_true, hv]
  rcases hw' : eepromWrite16 H ready s offset (load16 eepromData offset.toNat) with
    ⟨_ | _ | _, s1⟩ <;> rw [hw'] at hw <;> dsimp only
  · have hr := @eepromRead16_mem H ready s1 (offset.setWidth 32)
    rcases hr' : eepromRead16 H ready s1 (offset.setWidth 32) with ⟨_ | _ | _, v, s2⟩ <;>
      rw [hr'] at hr <;> dsimp only
    · split_ifs <;> exact ⟨_, rfl, hr ▸ hw⟩
    · exact ⟨_, rfl, hr ▸ hw⟩
    · exact ⟨_, rfl, hr ▸ hw⟩
  · exact ⟨_, rfl, hw⟩
  · exact ⟨_, rfl, hw⟩

/-- Every run of the write loop from a dword offset that ends, whatever it returns, leaves a prefix
of the image from the block of that offset, when the image fits the block address field and the
`u16` offset does not wrap. -/
theorem updateLoop_prefixWritten (hfit : eepromSize.toNat ≤ 4 * 2 ^ H.blkAddrBits)
    (hsize : eepromSize.toNat ≤ 65532 ∨ eepromSize.toNat = 65534) :
    ∀ (fuel : Nat) (offset : BitVec 16) (s : EepState) (r : PlxEepRetval × EepState),
      offset.toNat % 4 = 0 → updateLoop H ready eepromData eepromSize fuel offset s = some r →
      ∃ n, offset.toNat / 4 ≤ n ∧
        PrefixWritten eepromData eepromSize.toNat s.mem r.2.mem (offset.toNat / 4) n
  | 0, _, _, _, _, h => by cases h
  | fuel + 1, offset, s, r, ho, h => by
    by_cases hlt : offset.toNat < eepromSize.toNat
    · have hblk : blockOf H offset.toNat = offset.toNat / 4 := blockOf_of_lt (by omega)
      have h4 : 4 * (offset.toNat / 4) = offset.toNat := by omega
      by_cases h2 : eepromSize.toNat = offset.toNat + 2
      · obtain ⟨r', hr', hm⟩ := @updateLoop_tail_mem H ready eepromData eepromSize s fuel offset ho h2
        rw [hr', Option.some.injEq] at h
        subst h
        have hup : updatedDword eepromData eepromSize.toNat s.mem (offset.toNat / 4) =
            (load16 eepromData offset.toNat).setWidth 32 |||
              (s.mem (offset.toNat / 4) &&& 0xFFFF0000) := by
          rw [updatedDword, if_pos (by omega), if_pos (by omega), h4]
        rw [hblk, ← hup] at hm
        exact ⟨_, le_rfl, prefixWritten_of_eq_or hm⟩
      · have hup : updatedDword eepromData eepromSize.toNat s.mem (offset.toNat / 4) =
            load32 eepromData offset.toNat := by
          rw [updatedDword, if_pos (by omega), if_neg (by omega), h4]
        rcases @updateLoop_full_mem H ready eepromData eepromSize s fuel offset hlt h2 with
          ⟨r', hr', hm⟩ | ⟨s2, hs2, heq⟩
        · rw [hr', Option.some.injEq] at h
          subst h
          rw [hblk, ← hup] at hm
          exact ⟨_, le_rfl, prefixWritten_of_eq_or hm⟩
        · have h4' : (offset + 4).toNat = offset.toNat + 4 := by rw [toNat_add_four]; omega
          rw [heq] at h
          obtain ⟨n, hn, hp⟩ := updateLoop_prefixWritten hfit hsize fuel (offset + 4) s2 r
            (by omega) h
          rw [h4', show (offset.toNat + 4) / 4 = offset.toNat / 4 + 1 by omega, hs2, hblk,
            ← hup] at hp
          exact ⟨n, by omega, hp.cons (by omega)⟩
    · simp only [updateLoop, setWidth_lt_iff, hlt, if_false, Option.some.injEq] at h
      subst h
      exact ⟨_, le_rfl, prefixWritten_of_eq_or (.inl rfl)⟩

end Loop

/-- Whatever the controller's timing and whatever `plx_update_eeprom` returns, every run that
ends, on an image that fits the block address field and whose `u16` offset does not wrap, leaves
a prefix of the image: the blocks below some `n` hold what a correct update writes there, the
blocks above `n` what they held, and every block one or the other. -/
theorem update_eeprom_prefix_written {H : EepController} {ready : Nat → Bool} {E : EepConsts}
    {fuel : Nat} {eepromData : Nat → BitVec 8} {eepromSize : BitVec 64} {s s' : EepState}
    {ret : PlxEepRetval} (hfit : eepromSize.toNat ≤ 4 * 2 ^ H.blkAddrBits)
    (hsize : eepromSize.toNat ≤ 65532 ∨ eepromSize.toNat = 65534)
    (h : plxUpdateEeprom H ready E fuel eepromData eepromSize s = some (ret, s')) :
    ∃ n, ∀ k, (k < n → s'.mem k = updatedDword eepromData eepromSize.toNat s.mem k) ∧
      (n < k → s'.mem k = s.mem k) ∧
      (s'.mem k = s.mem k ∨ s'.mem k = updatedDword eepromData eepromSize.toNat s.mem k) := by
  unfold plxUpdateEeprom at h
  split at h
  · obtain ⟨n, -, hp⟩ := updateLoop_prefixWritten hfit hsize fuel 0 s (ret, s') rfl h
    exact ⟨n, fun k => ⟨(hp k).1 (Nat.zero_le k), fun hk => (hp k).2.1 (.inr hk), (hp k).2.2⟩⟩
  · rw [Option.some.injEq, Prod.mk.injEq] at h
    obtain ⟨-, rfl⟩ := h
    exact ⟨0, fun k => ⟨fun hk => absurd hk (Nat.not_lt_zero k), fun _ => rfl, .inl rfl⟩⟩

/-- An erased EEPROM, every bit set, and a controller that answers its first ten status reads and
then times out: the update of `smallImage` writes its first dword, and the `WRITE` of its second
takes effect although the wait for it times out. -/
theorem update_eeprom_prefix_written_timeout :
    ∃ ret s', plxUpdateEeprom sampleController (fun n => decide (n < 10)) sampleEepConsts 5
        smallImage 14 ⟨fun _ => 0xFFFFFFFF, 0, 0⟩ = some (ret, s') ∧
      (14 : BitVec 64).toNat ≤ 4 * 2 ^ sampleController.blkAddrBits ∧
      ((14 : BitVec 64).toNat ≤ 65532 ∨ (14 : BitVec 64).toNat = 65534) ∧
      ∃ n, ∀ k,
        (k < n → s'.mem k = updatedDword smallImage (14 : BitVec 64).toNat (fun _ => 0xFFFFFFFF) k) ∧
        (n < k → s'.mem k = 0xFFFFFFFF) ∧
        (s'.mem k = 0xFFFFFFFF ∨
          s'.mem k = updatedDword smallImage (14 : BitVec 64).toNat (fun _ => 0xFFFFFFFF) k) :=
  ⟨_, _, rfl, by decide, .inl (by decide),
    @update_eeprom_prefix_written sampleController (fun n => decide (n < 10)) sampleEepConsts 5
      smallImage 14 ⟨fun _ => 0xFFFFFFFF, 0, 0⟩ _ _ (by decide) (.inl (by decide)) rfl⟩

end PlxHw.Eeprom
