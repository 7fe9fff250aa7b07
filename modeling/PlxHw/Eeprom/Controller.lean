import PlxHw.Eeprom.Crc

/-!
# The EEPROM controller

Each EEPROM access of the driver goes through the controller's status register
`PLX_EEP_STATUS_CONTROL`: the driver waits until the EEPROM is ready
(`eeprom_wait_for_access_ready`), writes a command with a block address, and polls until the
command completes (`eeprom_wait_for_cmd_complete`). Data pass through `PLX_EEP_BUFFER`.

The controller is modelled as a memory of dwords on which `READ` and `WRITE` act at the block
address carried in the fields `eep_blk_addr` and `eep_blk_addr_upper_bit` of the command
(`execCmd`). Its timing is arbitrary: `ready n` is what the `n`-th checked read of the status
register finds, and every result holds for every `ready`.

A successful access changes nothing but what it is for: `eeprom_read32` reads the block
`offset / 4 mod 2^blkAddrBits` into the buffer register, `eeprom_write32` writes its value there,
and the 16-bit accesses act on the half of that dword which `offset & 3` selects
(`eepromRead32_ok`, `eepromWrite32_ok`, `eepromRead16_ok`, `eepromWrite16_ok`). With a
controller that is always ready every access succeeds.

## Main definitions

* `EepController`, `EepCmd`, `EepState`, `execCmd`.
* `waitForCmdComplete`, `eepromSendCmd`, `waitForAccessReady`, `eepromRead32`, `eepromRead16`,
  `eepromWrite32`, `eepromWrite16`.
* `blockOf`: the block an access at a byte offset reaches.

## Main results

* `eepromRead32_ok`, `eepromWrite32_ok`, `eepromRead16_ok`, `eepromWrite16_ok`.
* `eepromRead32_alwaysReady`, `eepromWrite32_alwaysReady`, `eepromRead16_alwaysReady`,
  `eepromWrite16_alwaysReady`.

## References

* `src/node-drivers/base-driver/drivers/vca/plx87xx/plx_hw.c`, lines 1309–1507.
-/

namespace PlxHw.Eeprom

/-- The EEPROM controller as `plx_hw.h` describes it to the driver: the width of the field
`eep_blk_addr` of `struct plx_eep_status_register`, and `PLX_EEP_WAIT_TRIES`. -/
structure EepController where
  blkAddrBits : Nat
  waitTries : BitVec 32

/-- The commands of the field `eep_cmd`: `PLX_EEP_CMD_READ_STATUS`, `PLX_EEP_CMD_READ`,
`PLX_EEP_CMD_WRITE` and `PLX_EEP_CMD_WRITE_ENABLE`. -/
inductive EepCmd
  | readStatus
  | read
  | write
  | writeEnable
  deriving DecidableEq, Repr

/-- The EEPROM's dwords by block address, the register `PLX_EEP_BUFFER`, and the number of checked
reads of the status register so far. -/
structure EepState where
  mem : Nat → BitVec 32
  buffer : BitVec 32
  polls : Nat

/-- One more checked read of the status register. -/
def EepState.tick (s : EepState) : EepState := { s with polls := s.polls + 1 }

variable (H : EepController)

/-- The number of reads the loops `do { ... tries_left--; } while (tries_left)` make, from the
`unsigned` `tries_left = PLX_EEP_WAIT_TRIES`. -/
def waitPolls : Nat := (H.waitTries - 1).toNat + 1

/-- The controller executing the command `cmd` written to the status register, with the block
address `eep_blk_addr` and the bit `eep_blk_addr_upper_bit` of the written value. -/
def execCmd (s : EepState) (cmd : EepCmd) (blkAddr : BitVec H.blkAddrBits) (upper : Bool) :
    EepState :=
  let addr := blkAddr.toNat + if upper then 2 ^ H.blkAddrBits else 0
  match cmd with
  | .read => { s with buffer := s.mem addr }
  | .write => { s with mem := Function.update s.mem addr s.buffer }
  | .readStatus | .writeEnable => s

variable (ready : Nat → Bool)

/-- `eeprom_wait_for_cmd_complete(xdev)` with `n` reads of the status register left: `ready`
says whether `eep_cmd_status` is 0. -/
def waitForCmdComplete : Nat → EepState → PlxEepRetval × EepState
  | 0, s => (.timeout, s)
  | n + 1, s => if ready s.polls then (.statusOk, s.tick) else waitForCmdComplete n s.tick

/-- `eeprom_send_cmd(xdev, cmd, PLX_EEP_STATUS_CONTROL)`: the write of the command, then the wait
for its completion. -/
def eepromSendCmd (s : EepState) (cmd : EepCmd) (blkAddr : BitVec H.blkAddrBits)
    (upper : Bool) : PlxEepRetval × EepState :=
  waitForCmdComplete ready (waitPolls H) (execCmd H s cmd blkAddr upper)

/-- `eeprom_wait_for_access_ready(xdev)` with `n` tries left: a `READ_STATUS` command, then a
read of the status register, where `ready` says whether `eep_ready` and `eep_write_status` are
both 0. The block address of the command is the one the register held, which `READ_STATUS` does
not use. -/
def waitForAccessReady : Nat → EepState → PlxEepRetval × EepState
  | 0, s => (.timeout, s)
  | n + 1, s =>
    match eepromSendCmd H ready s .readStatus 0 false with
    | (.statusOk, s) => if ready s.polls then (.statusOk, s.tick) else waitForAccessReady n s.tick
    | r => r

/-- `eeprom_read32(xdev, offset, &value_32)`: the result, `value_32`, and the state after. -/
def eepromRead32 (s : EepState) (offset : BitVec 32) : PlxEepRetval × BitVec 32 × EepState :=
  match waitForAccessReady H ready (waitPolls H) s with
  | (.statusOk, s) =>
    let blkAddr := BitVec.ofNat H.blkAddrBits (offset / 4).toNat
    match eepromSendCmd H ready s .read blkAddr false with
    | (.statusOk, s) => (.statusOk, s.buffer, s)
    | (ret, s) => (ret, 0, s)
  | (ret, s) => (ret, 0, s)

/-- `eeprom_write32(xdev, offset, value_32)`: a `WRITE_ENABLE` command, the value in the buffer
register, and a `WRITE` command. -/
def eepromWrite32 (s : EepState) (offset : BitVec 16) (value32 : BitVec 32) :
    PlxEepRetval × EepState :=
  match waitForAccessReady H ready (waitPolls H) s with
  | (.statusOk, s) =>
    match eepromSendCmd H ready s .writeEnable 0 false with
    | (.statusOk, s) =>
      let blkAddr := BitVec.ofNat H.blkAddrBits (offset / 4).toNat
      eepromSendCmd H ready { s with buffer := value32 } .write blkAddr false
    | r => r
  | r => r

/-- `eeprom_read16(xdev, offset, &value_16)`: the half of the dword at `offset & ~0x3` that
`offset & 0x3` selects. -/
def eepromRead16 (s : EepState) (offset : BitVec 32) : PlxEepRetval × BitVec 16 × EepState :=
  match eepromRead32 H ready s (offset &&& ~~~3) with
  | (.statusOk, value32, s) =>
    (.statusOk, if offset &&& 3 ≠ 0 then (value32 >>> 16).setWidth 16 else value32.setWidth 16, s)
  | (ret, _, s) => (ret, 0, s)

/-- `eeprom_write16(xdev, offset, value_16)`: a read of the dword at `offset & ~0x3`, and a write
of it with the half that `offset & 0x3` selects replaced. -/
def eepromWrite16 (s : EepState) (offset : BitVec 16) (value16 : BitVec 16) :
    PlxEepRetval × EepState :=
  match eepromRead32 H ready s ((offset &&& ~~~3).setWidth 32) with
  | (.statusOk, value32, s) =>
    let value32 := if offset &&& 3 ≠ 0 then (value16.setWidth 32 <<< 16) ||| (value32 &&& 0xFFFF)
      else value16.setWidth 32 ||| (value32 &&& 0xFFFF0000)
    eepromWrite32 H ready s (offset &&& ~~~3) value32
  | (ret, _, s) => (ret, s)

/-! ### Offsets and block addresses -/

section Bits

variable {w : Nat}

private theorem and_not_three_ushiftRight (x : BitVec w) : (x &&& ~~~3) >>> 2 = x >>> 2 := by
  apply BitVec.eq_of_getLsbD_eq
  intro i
  have h3 : Nat.testBit 3 (2 + i) = false := Nat.testBit_lt_two_pow
    (Nat.lt_of_lt_of_le (by decide : 3 < 2 ^ 2)
      (Nat.pow_le_pow_right (by decide) (Nat.le_add_right 2 i)))
  cases h : x.getLsbD (2 + i)
  · simp [BitVec.getLsbD_ushiftRight, BitVec.getLsbD_and, h]
  · simp [BitVec.getLsbD_ushiftRight, BitVec.getLsbD_and, BitVec.getLsbD_not,
      BitVec.getLsbD_ofNat, h3, h, BitVec.lt_of_getLsbD h]

/-- Clearing the two low bits of an offset keeps its dword. -/
private theorem toNat_and_not_three_div (x : BitVec w) : (x &&& ~~~3).toNat / 4 = x.toNat / 4 := by
  have := congrArg BitVec.toNat (and_not_three_ushiftRight x)
  simpa [BitVec.toNat_ushiftRight, Nat.shiftRight_eq_div_pow] using this

private theorem toNat_and_three (x : BitVec w) (hw : 2 ≤ w) : (x &&& 3).toNat = x.toNat % 4 := by
  rw [BitVec.toNat_and, show (3 : BitVec w).toNat = 2 ^ 2 - 1 from Nat.mod_eq_of_lt
    (Nat.lt_of_lt_of_le (by decide) (Nat.pow_le_pow_right (by decide) hw)),
    Nat.and_pow_two_sub_one_eq_mod]

theorem and_three_eq_zero {x : BitVec w} (hw : 2 ≤ w) (h : x.toNat % 4 = 0) : x &&& 3 = 0 :=
  BitVec.eq_of_toNat_eq (by rw [toNat_and_three x hw, h]; rfl)

/-- Widening a `u16` keeps its value. -/
theorem toNat_setWidth_u16 {w : Nat} (x : BitVec 16) (hw : 16 ≤ w) :
    (x.setWidth w).toNat = x.toNat := by
  rw [BitVec.toNat_setWidth,
    Nat.mod_eq_of_lt (Nat.lt_of_lt_of_le x.isLt (Nat.pow_le_pow_right (by decide) hw))]

/-- Replacing the low half of a dword and keeping its high half leaves the new low half. -/
theorem setWidth_or_and_high (v : BitVec 16) (x : BitVec 32) :
    (v.setWidth 32 ||| (x &&& 0xFFFF0000)).setWidth 16 = v := by
  have hlow : ∀ i : Fin 16, (0xFFFF0000 : BitVec 32).getLsbD i = false := by decide
  ext i
  simp [BitVec.getLsbD_setWidth, BitVec.getLsbD_or, BitVec.getLsbD_and, hlow i]

end Bits

/-! ### One access -/

/-- The block a `READ` or `WRITE` for byte offset `offset` reaches: `offset / 4` stored in the
field `eep_blk_addr`, the upper bit 0. -/
def blockOf (offset : Nat) : Nat := offset / 4 % 2 ^ H.blkAddrBits

section Access

variable {H ready} {s s' : EepState}

/-- Waiting for a command changes only the count of status reads. -/
theorem waitForCmdComplete_eq : ∀ (n : Nat) (s : EepState),
    ∃ p, (waitForCmdComplete ready n s).2 = { s with polls := p }
  | 0, s => ⟨s.polls, rfl⟩
  | n + 1, s => by
    unfold waitForCmdComplete
    split
    · exact ⟨_, rfl⟩
    · exact waitForCmdComplete_eq n s.tick

/-- Waiting for the EEPROM to be ready changes only the count of status reads. -/
theorem waitForAccessReady_eq : ∀ (n : Nat) (s : EepState),
    ∃ p, (waitForAccessReady H ready n s).2 = { s with polls := p }
  | 0, s => ⟨s.polls, rfl⟩
  | n + 1, s => by
    obtain ⟨p, hp⟩ := @waitForCmdComplete_eq ready (waitPolls H) s
    unfold waitForAccessReady eepromSendCmd
    rw [show execCmd H s .readStatus 0 false = s from rfl]
    rcases hw : waitForCmdComplete ready (waitPolls H) s with ⟨_ | _ | _, s1⟩ <;>
      rw [hw] at hp <;> dsimp only at hp ⊢ <;> subst hp
    · split
      · exact ⟨_, rfl⟩
      · obtain ⟨q, hq⟩ := waitForAccessReady_eq n (EepState.tick { s with polls := p })
        exact ⟨q, hq⟩
    · exact ⟨p, rfl⟩
    · exact ⟨p, rfl⟩

theorem toNat_blkAddr {w : Nat} (offset : BitVec w) (hw : 2 < w) :
    (BitVec.ofNat H.blkAddrBits (offset / 4).toNat).toNat = blockOf H offset.toNat := by
  rw [BitVec.toNat_ofNat, BitVec.toNat_udiv, blockOf]
  congr 2
  show 4 % 2 ^ w = 4
  exact Nat.mod_eq_of_lt (calc 4 = 2 ^ 2 := rfl
    _ < 2 ^ w := Nat.pow_lt_pow_right (by decide) hw)

/-- A successful `eeprom_read32` reads the block of its offset into the buffer register. -/
theorem eepromRead32_ok {offset v : BitVec 32}
    (h : eepromRead32 H ready s offset = (.statusOk, v, s')) :
    v = s.mem (blockOf H offset.toNat) ∧ ∃ p, s' = { s with buffer := v, polls := p } := by
  obtain ⟨p, hp⟩ := @waitForAccessReady_eq H ready (waitPolls H) s
  unfold eepromRead32 eepromSendCmd at h
  rcases hw : waitForAccessReady H ready (waitPolls H) s with ⟨_ | _ | _, s1⟩ <;>
    rw [hw] at h hp <;> dsimp only at h hp <;> subst hp
  · obtain ⟨q, hq⟩ := @waitForCmdComplete_eq ready (waitPolls H)
      (execCmd H { s with polls := p } .read (BitVec.ofNat H.blkAddrBits (offset / 4).toNat) false)
    rcases hc : waitForCmdComplete ready (waitPolls H)
        (execCmd H { s with polls := p } .read (BitVec.ofNat H.blkAddrBits (offset / 4).toNat) false)
      with ⟨_ | _ | _, s2⟩ <;> rw [hc] at h hq <;> dsimp only at h hq <;> subst hq
    · simp only [Prod.mk.injEq, true_and] at h
      obtain ⟨rfl, rfl⟩ := h
      refine ⟨?_, q, rfl⟩
      simp only [execCmd, toNat_blkAddr offset (by decide), Bool.false_eq_true, if_false,
        Nat.add_zero]
    · cases h
    · cases h
  · cases h
  · cases h

/-- A successful `eeprom_write32` leaves its value in the buffer register and in the block of its
offset. -/
theorem eepromWrite32_ok {offset : BitVec 16} {v : BitVec 32}
    (h : eepromWrite32 H ready s offset v = (.statusOk, s')) :
    ∃ p, s' = ⟨Function.update s.mem (blockOf H offset.toNat) v, v, p⟩ := by
  obtain ⟨p, hp⟩ := @waitForAccessReady_eq H ready (waitPolls H) s
  unfold eepromWrite32 eepromSendCmd at h
  rcases hw : waitForAccessReady H ready (waitPolls H) s with ⟨_ | _ | _, s1⟩ <;>
    rw [hw] at h hp <;> dsimp only at h hp <;> subst hp
  · obtain ⟨q, hq⟩ := @waitForCmdComplete_eq ready (waitPolls H)
      (execCmd H { s with polls := p } .writeEnable 0 false)
    rcases hc : waitForCmdComplete ready (waitPolls H)
        (execCmd H { s with polls := p } .writeEnable 0 false)
      with ⟨_ | _ | _, s2⟩ <;> rw [hc] at h hq <;> dsimp only at h hq <;> subst hq
    · obtain ⟨r, hr⟩ := @waitForCmdComplete_eq ready (waitPolls H)
        (execCmd H { s with buffer := v, polls := q } .write
          (BitVec.ofNat H.blkAddrBits (offset / 4).toNat) false)
      refine ⟨r, ?_⟩
      rw [show s' = _ from (congrArg Prod.snd h).symm.trans hr]
      simp only [execCmd, toNat_blkAddr offset (by decide), Bool.false_eq_true, if_false,
        Nat.add_zero]
    · cases h
    · cases h
  · cases h
  · cases h

theorem blockOf_and_not_three {w : Nat} (x : BitVec w) :
    blockOf H (x &&& ~~~3).toNat = blockOf H x.toNat := by
  rw [blockOf, blockOf, toNat_and_not_three_div]

/-- A successful `eeprom_write16` replaces the half of the dword at its offset that the offset
selects, the other half read back from the EEPROM. -/
theorem eepromWrite16_ok {offset value16 : BitVec 16}
    (h : eepromWrite16 H ready s offset value16 = (.statusOk, s')) :
    let old := s.mem (blockOf H offset.toNat)
    let value32 := if offset &&& 3 ≠ 0 then (value16.setWidth 32 <<< 16) ||| (old &&& 0xFFFF)
      else value16.setWidth 32 ||| (old &&& 0xFFFF0000)
    ∃ p, s' = ⟨Function.update s.mem (blockOf H offset.toNat) value32, value32, p⟩ := by
  unfold eepromWrite16 at h
  rcases hr : eepromRead32 H ready s ((offset &&& ~~~3).setWidth 32) with ⟨_ | _ | _, v, s1⟩ <;>
    rw [hr] at h
  · obtain ⟨rfl, p, rfl⟩ := eepromRead32_ok hr
    obtain ⟨q, rfl⟩ := eepromWrite32_ok h
    have hw : (offset &&& ~~~3).toNat % 2 ^ 32 = (offset &&& ~~~3).toNat :=
      Nat.mod_eq_of_lt (by have := (offset &&& ~~~3).isLt; omega)
    refine ⟨q, ?_⟩
    simp only [BitVec.toNat_setWidth, hw, blockOf_and_not_three]
  · cases h
  · cases h

/-- A successful `eeprom_read16` reads the half of the dword at its offset that the offset
selects. -/
theorem eepromRead16_ok {offset : BitVec 32} {value16 : BitVec 16}
    (h : eepromRead16 H ready s offset = (.statusOk, value16, s')) :
    let value32 := s.mem (blockOf H offset.toNat)
    value16 = (if offset &&& 3 ≠ 0 then (value32 >>> 16).setWidth 16 else value32.setWidth 16) ∧
      ∃ p, s' = { s with buffer := value32, polls := p } := by
  unfold eepromRead16 at h
  rcases hr : eepromRead32 H ready s (offset &&& ~~~3) with ⟨_ | _ | _, v, s1⟩ <;> rw [hr] at h
  · obtain ⟨rfl, p, rfl⟩ := eepromRead32_ok hr
    simp only [Prod.mk.injEq, true_and] at h
    obtain ⟨rfl, rfl⟩ := h
    rw [blockOf_and_not_three]
    exact ⟨rfl, p, rfl⟩
  · cases h
  · cases h

end Access

/-! ### A controller that is always ready -/

section AlwaysReady

variable {H} {s : EepState}

theorem eepromRead32_alwaysReady (offset : BitVec 32) :
    (eepromRead32 H (fun _ => true) s offset).1 = .statusOk := by
  simp [eepromRead32, waitForAccessReady, eepromSendCmd, waitPolls, waitForCmdComplete]

theorem eepromWrite32_alwaysReady (offset : BitVec 16) (value32 : BitVec 32) :
    (eepromWrite32 H (fun _ => true) s offset value32).1 = .statusOk := by
  simp [eepromWrite32, waitForAccessReady, eepromSendCmd, waitPolls, waitForCmdComplete]

theorem eepromRead16_alwaysReady (offset : BitVec 32) :
    (eepromRead16 H (fun _ => true) s offset).1 = .statusOk := by
  simp [eepromRead16, eepromRead32, waitForAccessReady, eepromSendCmd, waitPolls,
    waitForCmdComplete]

theorem eepromWrite16_alwaysReady (offset value16 : BitVec 16) :
    (eepromWrite16 H (fun _ => true) s offset value16).1 = .statusOk := by
  simp [eepromWrite16, eepromWrite32, eepromRead32, waitForAccessReady, eepromSendCmd, waitPolls,
    waitForCmdComplete]

end AlwaysReady

end PlxHw.Eeprom
