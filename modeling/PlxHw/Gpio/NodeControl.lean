import PlxHw.Gpio.Interleaving

/-!
# The node-control operations and their tables

`plx_card_reset`, `plx_card_check_power_button_state`, `plx_card_press_power_button` and
`plx_turn_rcv_mode` (through `plx_enable_bios_recovery_mode` and
`plx_disable_bios_recovery_mode`) find the `GPIO_REG` bit of a CPU of the card in a table of
three entries indexed by `cpu_id`: `plx_reset_bits[2][3]`, a row for each card type,
`plx_power_button_bits[3]` and `plx_bios_rcv_bits[3]`. `plx_card_reset` also reads the node's
context `plx_contexts[card_id][cpu_id]`, and the power button paths read and write
`xdev->power_ts[cpu_id]`.

An array access is an `Option` (`arrayEntry`, `arrayUpdate`): `none` when the index is outside
the array, where the C code reads or writes past it. Each operation returns the sections it runs
on `GPIO_REG` (the `GpioSection`s of `signal_bit`, `_clear_bit` and `_set_bit`) or its result,
and `none` when it accesses an array out of bounds.

`plx_card_reset` and the power button paths take an `int cpu_id` and check it against
`plx_get_cpu_num` first (`toNat_lt_of_not_cpuIdInvalid`). When no card type has more CPUs than
the tables have entries (`NodeConsts.FitsTables`) and the card's `card_id` is a row of
`plx_contexts`, they access every array within its bounds and change `GPIO_REG` only at the bit
of one of the card's CPUs (`node_control_within_tables`). `plx_turn_rcv_mode` takes a
`u32 cpu_id` and indexes `plx_bios_rcv_bits` with it unchecked, and its callers pass theirs on
unchecked: on an MV card they read past the table exactly for an id of 3 or more
(`bios_recovery_mode_unchecked`).

## Main definitions

* `NodeConsts`, `NodeDevice`, `arrayEntry`, `arrayUpdate`, `plxGetCpuNum`, `CpuIdInvalid`.
* `plxCardReset`, `plxCardCheckPowerButtonState`, `plxCardPressPowerButton`, `plxTurnRcvMode`,
  `plxEnableBiosRecoveryMode`, `plxDisableBiosRecoveryMode`.
* `OnlyCpuBit`, `NodeConsts.FitsTables`.

## Main results

* `toNat_lt_of_not_cpuIdInvalid`: an `int cpu_id` that passes the check is a CPU of the card.
* `plxCardReset_within`, `plxCardCheckPowerButtonState_ne_none`, `plxCardPressPowerButton_within`,
  `node_control_within_tables`: the checked operations stay within their arrays.
* `plxTurnRcvMode_eq_none_iff`, `bios_recovery_mode_unchecked`: the recovery mode operations read
  past `plx_bios_rcv_bits`.

## References

* `src/node-drivers/base-driver/drivers/vca/plx87xx/plx_hw.c`, lines 41–65, 943–958 and
  1060–1259.
-/

namespace PlxHw.Gpio

/-- The constants of `vca_common.h`, `plx_device.h` and `plx_hw.h` that the node-control
operations read, and the entries of the tables of `plx_hw.c`. -/
structure NodeConsts where
  /-- `VCA_VV`, the `card_type` bit of VV cards. -/
  vcaVV : BitVec 32
  /-- `VCA_MV`, the `card_type` bit of MV cards. -/
  vcaMV : BitVec 32
  /-- `PLX_VV_CPU_NUMS`. -/
  vvCpuNums : BitVec 32
  /-- `PLX_MV_CPU_NUMS`. -/
  mvCpuNums : BitVec 32
  /-- `MAX_VCA_CARDS`, the rows of `plx_contexts`. -/
  maxVcaCards : Nat
  /-- `MAX_VCA_CARD_CPUS`, the columns of `plx_contexts`. -/
  maxVcaCardCpus : Nat
  /-- The entries of `power_ts` in `struct plx_device`. -/
  powerTsLength : Nat
  /-- `plx_reset_bits`: `PLX_VV_CPU0_RESET_BIT` to `PLX_VV_CPU2_RESET_BIT`, then the MV ones. -/
  resetBits : Fin 2 → Fin 3 → BitVec 32
  /-- `plx_power_button_bits`: `PLX_CPU0_POWER_BIT` to `PLX_CPU2_POWER_BIT`. -/
  powerButtonBits : Fin 3 → BitVec 32
  /-- `plx_bios_rcv_bits`: `PLX_BIOS_RCV_MODE_CPU0` to `PLX_BIOS_RCV_MODE_CPU2`. -/
  biosRcvBits : Fin 3 → BitVec 32

variable (K : NodeConsts)

/-- The fields of `struct plx_device` that the node-control operations read. -/
structure NodeDevice where
  /-- `card_type`. -/
  cardType : BitVec 32
  /-- `card_id`, the card's row of `plx_contexts`. -/
  cardId : Int
  /-- `power_ts`: for each CPU, the jiffies at which its power button was last released. -/
  powerTs : Fin K.powerTsLength → BitVec 64

/-! ### Array accesses -/

section Arrays

variable {α : Type} {n : Nat}

/-- `array[i]` for a C array of `n` entries: `none` when `i` is outside the array. -/
def arrayEntry (array : Fin n → α) (i : Int) : Option α :=
  if h : 0 ≤ i ∧ i < n then some (array ⟨i.toNat, by omega⟩) else none

/-- `array[i] = v` for a C array of `n` entries: `none` when `i` is outside the array. -/
def arrayUpdate (array : Fin n → α) (i : Int) (v : α) : Option (Fin n → α) :=
  if h : 0 ≤ i ∧ i < n then some (Function.update array ⟨i.toNat, by omega⟩ v) else none

private theorem arrayEntry_natCast (array : Fin n → α) {i : Nat} (h : i < n) :
    arrayEntry array i = some (array ⟨i, h⟩) := by
  rw [arrayEntry, dif_pos ⟨Int.natCast_nonneg i, by omega⟩]
  simp only [Int.toNat_natCast]

private theorem arrayEntry_of_nonneg (array : Fin n → α) {i : Int} (h0 : 0 ≤ i) (h : i < n) :
    arrayEntry array i = some (array ⟨i.toNat, by omega⟩) := by
  rw [arrayEntry, dif_pos ⟨h0, h⟩]

private theorem arrayEntry_eq_none_iff (array : Fin n → α) (i : Int) :
    arrayEntry array i = none ↔ i < 0 ∨ n ≤ i := by
  unfold arrayEntry
  split <;> simp only [reduceCtorEq, true_iff, false_iff] <;> omega

private theorem arrayUpdate_natCast (array : Fin n → α) {i : Nat} (h : i < n) (v : α) :
    arrayUpdate array i v = some (Function.update array ⟨i, h⟩ v) := by
  rw [arrayUpdate, dif_pos ⟨Int.natCast_nonneg i, by omega⟩]
  simp only [Int.toNat_natCast]

end Arrays

/-! ### The operations -/

/-- `plx_get_cpu_num(xdev)`: the CPUs of a VV card, else of an MV card, else 0. -/
def plxGetCpuNum (cardType : BitVec 32) : BitVec 32 :=
  if cardType &&& K.vcaVV ≠ 0 then K.vvCpuNums
  else if cardType &&& K.vcaMV ≠ 0 then K.mvCpuNums
  else 0

/-- `cpu_id < 0 || cpu_id >= plx_get_cpu_num(xdev)` for an `int cpu_id`: the second comparison
converts `cpu_id` to `u32`. -/
def CpuIdInvalid (cardType cpuId : BitVec 32) : Prop :=
  cpuId.toInt < 0 ∨ plxGetCpuNum K cardType ≤ cpuId

instance (cardType cpuId : BitVec 32) : Decidable (CpuIdInvalid K cardType cpuId) :=
  inferInstanceAs (Decidable (_ ∨ _))

/-- `plx_card_reset(xdev, compl, cpu_id)`: the sections it runs on `GPIO_REG`, or `none` if it
reads an array out of bounds. `contexts` is `plx_contexts`, an entry `none` for `NULL` and the
node's `reset_ts` otherwise; `inGracePeriod ts` says whether the jiffies now are within
`RESET_GRACE_PERIOD_MS` after `ts`, when the reset is ignored. -/
def plxCardReset (dev : NodeDevice K)
    (contexts : Fin K.maxVcaCards → Fin K.maxVcaCardCpus → Option (BitVec 64))
    (inGracePeriod : BitVec 64 → Bool) (cpuId : BitVec 32) : Option (List GpioSection) :=
  if CpuIdInvalid K dev.cardType cpuId then some []
  else
    match arrayEntry contexts dev.cardId with
    | none => none
    | some row =>
      match arrayEntry row cpuId.toInt with
      | none => none
      | some none => some []
      | some (some resetTs) =>
        if inGracePeriod resetTs then some []
        else if dev.cardType &&& K.vcaVV ≠ 0 then
          (arrayEntry (K.resetBits 0) cpuId.toInt).map signalBit
        else if dev.cardType &&& K.vcaMV ≠ 0 then
          (arrayEntry (K.resetBits 1) cpuId.toInt).map signalBit
        else some []

/-- `EINVAL` of the kernel's `errno.h`. -/
def eInval : Int := 22

/-- `plx_card_check_power_button_state(xdev, cpu_id)`, `gpioReg` being what `plx_mmio_read`
reads from `GPIO_REG`: 1 when the CPU's power button bit is low, 2 when it is high within
`POWER_GRACE_PERIOD_MS` after the button's last release (`inGracePeriod`), 0 otherwise and on a
VV card, `-EINVAL` for an unknown CPU or card; `none` if it reads an array out of bounds. -/
def plxCardCheckPowerButtonState (dev : NodeDevice K) (gpioReg : BitVec 32)
    (inGracePeriod : BitVec 64 → Bool) (cpuId : BitVec 32) : Option Int :=
  if dev.cardType &&& K.vcaMV ≠ 0 then
    if CpuIdInvalid K dev.cardType cpuId then some (-eInval)
    else
      match arrayEntry K.powerButtonBits cpuId.toInt with
      | none => none
      | some bit =>
        if gpioReg &&& bit = 0 then some 1
        else (arrayEntry dev.powerTs cpuId.toInt).map fun ts => if inGracePeriod ts then 2 else 0
  else if dev.cardType &&& K.vcaVV = 0 then some (-eInval)
  else some 0

/-- `plx_card_press_power_button(xdev, compl, cpu_id, hold, wait_start)`: the sections it runs on
`GPIO_REG` and the device after `signal_bit` stores the jiffies `releaseTs` of the release in
`power_ts[cpu_id]`, or `none` if it accesses an array out of bounds. `hold` only chooses how
long the button is held down, and the wait is not modelled. -/
def plxCardPressPowerButton (dev : NodeDevice K) (cpuId : BitVec 32) (releaseTs : BitVec 64) :
    Option (List GpioSection × NodeDevice K) :=
  if dev.cardType &&& K.vcaMV ≠ 0 then
    if CpuIdInvalid K dev.cardType cpuId then some ([], dev)
    else
      match arrayEntry K.powerButtonBits cpuId.toInt,
          arrayUpdate dev.powerTs cpuId.toInt releaseTs with
      | some bit, some powerTs => some (signalBit bit, ⟨dev.cardType, dev.cardId, powerTs⟩)
      | _, _ => none
  else some ([], dev)

/-- `plx_turn_rcv_mode(xdev, cpu_id, turn_on)`: on an MV card, clear the CPU's bit of
`plx_bios_rcv_bits` to turn recovery mode on and set it to turn it off; `none` if it reads past
the table. -/
def plxTurnRcvMode (dev : NodeDevice K) (cpuId : BitVec 32) (turnOn : Bool) :
    Option (List GpioSection) :=
  if dev.cardType &&& K.vcaMV ≠ 0 then
    (arrayEntry K.biosRcvBits cpuId.toNat).map fun bit =>
      if turnOn then clearBit bit else setBit bit
  else some []

/-- `plx_enable_bios_recovery_mode(xdev, cpu_id)`. -/
def plxEnableBiosRecoveryMode (dev : NodeDevice K) (cpuId : BitVec 32) :
    Option (List GpioSection) :=
  if dev.cardType &&& K.vcaMV ≠ 0 then plxTurnRcvMode K dev cpuId true else some []

/-- `plx_disable_bios_recovery_mode(xdev, cpu_id)`. -/
def plxDisableBiosRecoveryMode (dev : NodeDevice K) (cpuId : BitVec 32) :
    Option (List GpioSection) :=
  if dev.cardType &&& K.vcaMV ≠ 0 then plxTurnRcvMode K dev cpuId false else some []

/-! ### The checked operations -/

/-- The row of `plx_reset_bits` that `plx_card_reset` takes for a card type: the VV row for a VV
card, the MV row otherwise. -/
def resetRow (cardType : BitVec 32) : Fin 2 := if cardType &&& K.vcaVV ≠ 0 then 0 else 1

/-- The sections change `GPIO_REG` only at the entry of `table` for one of the first `cpuNum`
CPUs: each clears or sets such a bit. -/
def OnlyCpuBit (table : Fin 3 → BitVec 32) (cpuNum : BitVec 32) (secs : List GpioSection) :
    Prop :=
  ∀ sec ∈ secs, ∃ i : Fin 3, i.val < cpuNum.toNat ∧
    (sec = .clear (table i) ∨ sec = .set (table i))

/-- No card type has more CPUs than the tables of `plx_hw.c` have entries, than `plx_contexts`
has columns, or than `power_ts` has entries. -/
structure NodeConsts.FitsTables : Prop where
  vvCpuNums_le : K.vvCpuNums.toNat ≤ 3 ∧ K.vvCpuNums.toNat ≤ K.maxVcaCardCpus ∧
    K.vvCpuNums.toNat ≤ K.powerTsLength
  mvCpuNums_le : K.mvCpuNums.toNat ≤ 3 ∧ K.mvCpuNums.toNat ≤ K.maxVcaCardCpus ∧
    K.mvCpuNums.toNat ≤ K.powerTsLength

section Checked

variable {K}

theorem NodeConsts.FitsTables.cpuNum_le (hK : K.FitsTables) (cardType : BitVec 32) :
    (plxGetCpuNum K cardType).toNat ≤ 3 ∧
      (plxGetCpuNum K cardType).toNat ≤ K.maxVcaCardCpus ∧
      (plxGetCpuNum K cardType).toNat ≤ K.powerTsLength := by
  unfold plxGetCpuNum
  split_ifs
  · exact hK.vvCpuNums_le
  · exact hK.mvCpuNums_le
  · simp

/-- An `int cpu_id` that passes the check of `plx_card_reset` and the power button paths is a CPU
of the card: not negative, and below `plx_get_cpu_num`. -/
private theorem toNat_lt_of_not_cpuIdInvalid {cardType cpuId : BitVec 32}
    (h : ¬CpuIdInvalid K cardType cpuId) :
    cpuId.toInt = cpuId.toNat ∧ cpuId.toNat < (plxGetCpuNum K cardType).toNat := by
  simp only [CpuIdInvalid, not_or, not_lt, BitVec.le_def] at h
  rw [BitVec.toInt_eq_toNat_cond] at h ⊢
  split_ifs at h ⊢ <;> omega

private theorem onlyCpuBit_nil (table : Fin 3 → BitVec 32) (cpuNum : BitVec 32) :
    OnlyCpuBit table cpuNum [] :=
  fun _ h => absurd h (List.not_mem_nil _)

private theorem onlyCpuBit_signalBit {table : Fin 3 → BitVec 32} {cpuNum : BitVec 32} (i : Fin 3)
    (hi : i.val < cpuNum.toNat) : OnlyCpuBit table cpuNum (signalBit (table i)) := by
  intro sec hsec
  simp only [signalBit, List.mem_cons, List.mem_singleton, List.not_mem_nil, or_false] at hsec
  exact ⟨i, hi, hsec⟩

variable (hK : K.FitsTables) {dev : NodeDevice K}
include hK

/-- With a card whose `card_id` is a row of `plx_contexts`, `plx_card_reset` stays within its
arrays and pulses only the reset bit of one of the card's CPUs. -/
theorem plxCardReset_within (hcard : 0 ≤ dev.cardId ∧ dev.cardId < K.maxVcaCards)
    (contexts : Fin K.maxVcaCards → Fin K.maxVcaCardCpus → Option (BitVec 64))
    (inGracePeriod : BitVec 64 → Bool) (cpuId : BitVec 32) :
    ∃ secs, plxCardReset K dev contexts inGracePeriod cpuId = some secs ∧
      OnlyCpuBit (K.resetBits (resetRow K dev.cardType)) (plxGetCpuNum K dev.cardType) secs := by
  by_cases hinv : CpuIdInvalid K dev.cardType cpuId
  · exact ⟨[], if_pos hinv, onlyCpuBit_nil _ _⟩
  obtain ⟨hint, hlt⟩ := toNat_lt_of_not_cpuIdInvalid hinv
  obtain ⟨h3, hcpus, -⟩ := hK.cpuNum_le dev.cardType
  have hi : cpuId.toNat < 3 := by omega
  simp only [plxCardReset, if_neg hinv, arrayEntry_of_nonneg contexts hcard.1 hcard.2, hint,
    arrayEntry_natCast _ (show cpuId.toNat < K.maxVcaCardCpus by omega), arrayEntry_natCast _ hi,
    Option.map_some']
  cases contexts ⟨dev.cardId.toNat, by omega⟩ ⟨cpuId.toNat, by omega⟩ with
  | none => exact ⟨[], rfl, onlyCpuBit_nil _ _⟩
  | some resetTs =>
    simp only [resetRow]
    split_ifs <;> first
      | exact ⟨[], rfl, onlyCpuBit_nil _ _⟩
      | exact ⟨_, rfl, onlyCpuBit_signalBit ⟨cpuId.toNat, hi⟩ hlt⟩

/-- On an MV card `plx_card_check_power_button_state` reads `plx_power_button_bits` and
`power_ts` only at a CPU of the card; on other cards it reads neither. -/
theorem plxCardCheckPowerButtonState_ne_none (gpioReg : BitVec 32)
    (inGracePeriod : BitVec 64 → Bool) (cpuId : BitVec 32) :
    plxCardCheckPowerButtonState K dev gpioReg inGracePeriod cpuId ≠ none := by
  unfold plxCardCheckPowerButtonState
  split_ifs with hmv hinv
  · exact Option.some_ne_none _
  · obtain ⟨hint, hlt⟩ := toNat_lt_of_not_cpuIdInvalid hinv
    obtain ⟨h3, -, hts⟩ := hK.cpuNum_le dev.cardType
    simp only [hint, arrayEntry_natCast _ (show cpuId.toNat < 3 by omega),
      arrayEntry_natCast _ (show cpuId.toNat < K.powerTsLength by omega), Option.map_some']
    split_ifs <;> exact Option.some_ne_none _
  all_goals exact Option.some_ne_none _

/-- On an MV card `plx_card_press_power_button` pulses only the power button bit of one of the
card's CPUs and stores the release time within `power_ts`; on other cards it does nothing. -/
theorem plxCardPressPowerButton_within (cpuId : BitVec 32) (releaseTs : BitVec 64) :
    ∃ secs dev', plxCardPressPowerButton K dev cpuId releaseTs = some (secs, dev') ∧
      OnlyCpuBit K.powerButtonBits (plxGetCpuNum K dev.cardType) secs := by
  unfold plxCardPressPowerButton
  split_ifs with hmv hinv
  · exact ⟨[], dev, rfl, onlyCpuBit_nil _ _⟩
  · obtain ⟨hint, hlt⟩ := toNat_lt_of_not_cpuIdInvalid hinv
    obtain ⟨h3, -, hts⟩ := hK.cpuNum_le dev.cardType
    simp only [hint, arrayEntry_natCast _ (show cpuId.toNat < 3 by omega),
      arrayUpdate_natCast _ (show cpuId.toNat < K.powerTsLength by omega)]
    exact ⟨_, _, rfl, onlyCpuBit_signalBit ⟨cpuId.toNat, by omega⟩ hlt⟩
  · exact ⟨[], dev, rfl, onlyCpuBit_nil _ _⟩

end Checked

/-- When no card type has more CPUs than the tables have entries, `plx_card_reset`,
`plx_card_check_power_button_state` and `plx_card_press_power_button`, on a card whose `card_id`
is a row of `plx_contexts`, access every array within its bounds for every `int cpu_id`, and
change `GPIO_REG` only at the bit of one of the card's CPUs: their check of `cpu_id` against
`plx_get_cpu_num` comes before every index. -/
theorem node_control_within_tables (hK : K.FitsTables) (dev : NodeDevice K)
    (hcard : 0 ≤ dev.cardId ∧ dev.cardId < K.maxVcaCards) (cpuId : BitVec 32) :
    (∀ contexts inGracePeriod, ∃ secs,
      plxCardReset K dev contexts inGracePeriod cpuId = some secs ∧
        OnlyCpuBit (K.resetBits (resetRow K dev.cardType)) (plxGetCpuNum K dev.cardType) secs) ∧
    (∀ gpioReg inGracePeriod,
      plxCardCheckPowerButtonState K dev gpioReg inGracePeriod cpuId ≠ none) ∧
    ∀ releaseTs, ∃ secs dev',
      plxCardPressPowerButton K dev cpuId releaseTs = some (secs, dev') ∧
        OnlyCpuBit K.powerButtonBits (plxGetCpuNum K dev.cardType) secs :=
  ⟨fun contexts inGracePeriod => plxCardReset_within hK hcard contexts inGracePeriod cpuId,
    fun gpioReg inGracePeriod =>
      plxCardCheckPowerButtonState_ne_none hK gpioReg inGracePeriod cpuId,
    fun releaseTs => plxCardPressPowerButton_within hK cpuId releaseTs⟩

/-! ### The unchecked recovery mode -/

theorem plxTurnRcvMode_eq_none_iff (dev : NodeDevice K) (cpuId : BitVec 32) (turnOn : Bool) :
    plxTurnRcvMode K dev cpuId turnOn = none ↔
      dev.cardType &&& K.vcaMV ≠ 0 ∧ 3 ≤ cpuId.toNat := by
  by_cases hmv : dev.cardType &&& K.vcaMV ≠ 0
  · rw [plxTurnRcvMode, if_pos hmv, Option.map_eq_none', arrayEntry_eq_none_iff]
    simp only [hmv, ne_eq, not_false_eq_true, true_and]
    omega
  · rw [plxTurnRcvMode, if_neg hmv]
    exact iff_of_false (Option.some_ne_none _) fun h => hmv h.1

/-- `plx_turn_rcv_mode` indexes `plx_bios_rcv_bits` with its `u32 cpu_id` unchecked, and
`plx_enable_bios_recovery_mode` and `plx_disable_bios_recovery_mode` pass theirs on unchecked:
each reads past the three entries of the table exactly when the card is an MV card and `cpu_id`
is 3 or more, whatever the constants. -/
theorem bios_recovery_mode_unchecked (dev : NodeDevice K) (cpuId : BitVec 32) :
    (plxEnableBiosRecoveryMode K dev cpuId = none ↔
      dev.cardType &&& K.vcaMV ≠ 0 ∧ 3 ≤ cpuId.toNat) ∧
    (plxDisableBiosRecoveryMode K dev cpuId = none ↔
      dev.cardType &&& K.vcaMV ≠ 0 ∧ 3 ≤ cpuId.toNat) := by
  unfold plxEnableBiosRecoveryMode plxDisableBiosRecoveryMode
  by_cases hmv : dev.cardType &&& K.vcaMV ≠ 0
  · rw [if_pos hmv, if_pos hmv]
    exact ⟨plxTurnRcvMode_eq_none_iff K dev cpuId true,
      plxTurnRcvMode_eq_none_iff K dev cpuId false⟩
  · rw [if_neg hmv, if_neg hmv]
    exact ⟨iff_of_false (Option.some_ne_none _) fun h => hmv h.1,
      iff_of_false (Option.some_ne_none _) fun h => hmv h.1⟩

/-! ### Sample constants -/

/-- Values for the constants: VV and MV cards of three CPUs, eight cards, and a bit of its own for
each table entry. -/
def sampleNodeConsts : NodeConsts :=
  ⟨1, 2, 3, 3, 8, 3, 3, fun r i => 1 <<< (3 * r.val + i.val), fun i => 1 <<< (6 + i.val),
    fun i => 1 <<< (9 + i.val)⟩

/-- An MV card in the first row of `plx_contexts`. -/
def sampleMvCard : NodeDevice sampleNodeConsts := ⟨2, 0, fun _ => 0⟩

private theorem sampleNodeConsts_fitsTables : sampleNodeConsts.FitsTables := ⟨by decide, by decide⟩

theorem node_control_within_tables_sampleMvCard :
    (∀ contexts inGracePeriod, ∃ secs,
      plxCardReset sampleNodeConsts sampleMvCard contexts inGracePeriod 1 = some secs ∧
        OnlyCpuBit (sampleNodeConsts.resetBits (resetRow sampleNodeConsts 2)) 3 secs) ∧
    (∀ gpioReg inGracePeriod,
      plxCardCheckPowerButtonState sampleNodeConsts sampleMvCard gpioReg inGracePeriod 1 ≠
        none) ∧
    ∀ releaseTs, ∃ secs dev',
      plxCardPressPowerButton sampleNodeConsts sampleMvCard 1 releaseTs = some (secs, dev') ∧
        OnlyCpuBit sampleNodeConsts.powerButtonBits 3 secs :=
  node_control_within_tables sampleNodeConsts sampleNodeConsts_fitsTables sampleMvCard (by decide) 1

theorem bios_recovery_mode_unchecked_sampleMvCard :
    plxEnableBiosRecoveryMode sampleNodeConsts sampleMvCard 3 = none ∧
      plxDisableBiosRecoveryMode sampleNodeConsts sampleMvCard 3 = none :=
  have h := bios_recovery_mode_unchecked sampleNodeConsts sampleMvCard 3
  ⟨h.1.2 ⟨by decide, by decide⟩, h.2.2 ⟨by decide, by decide⟩⟩

end PlxHw.Gpio
