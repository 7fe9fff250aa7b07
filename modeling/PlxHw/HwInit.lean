import PlxHw.ALut.Invariant

/-!
# Hardware initialisation and the A-LUT it leaves

`plx_hw_init` reads the port's link side and port id from configuration space. From them it
computes the register bases and which side translates through the A-LUT. On the virtual side it
checks the EEPROM. It then chooses the A-LUT array of the port, programs the two RID LUT entries,
and enables the A-LUT (`_plx_a_lut_enable`). Last, `plx_alm_init` gives the segment manager its
geometry.

`_plx_a_lut_enable` clears the table with `plx_a_lut_clear`, whose loop runs over the manager's
`segments_num`. At that point `plx_alm_init` has not run yet, so the loop runs over whatever
`segments_num` the device context held before: nothing, in a freshly allocated context. The
entries from that count up to the one `plx_alm_init` then establishes keep the permission they
had (`plxHwInit_aLut_stale`). The session `plx_hw_init` leaves satisfies the A-LUT invariant of
the map and unmap paths exactly when those entries were already disabled (`plxHwInit_inv_iff`).

`plx_alm_init` lives in `plx_alm.c`, which is not part of the sources. It is modelled from the
description of the segment manager (spec §4.1) as an answer (`AlmInit`): a geometry with an empty
bookkeeping, or an error code.

## Main definitions

* `HwConsts`, `PciAnswers`: the constants of `plx_hw.h` and what the PCI core answers.
* `plxGetRegBase`, `plxCheckEeprom`, `plxRidLut`, `plxRidLutDma`, `plxProgramRidLut`,
  `plxProgramRidLutDma`, `plxALutDisable`, `plxALutEnable`, `plxHwInit`.
* `AlmInit`, `AlmInit.Valid`, `plxAlmInit`.
* `hwInitRegs`: the registers `plx_hw_init` writes outside the A-LUT arrays.

## Main results

* `clearEntries_congr`: the loop of `plx_a_lut_clear` acts on each register separately.
* `plxHwInit_mmio`: the registers after a successful `plx_hw_init`.
* `plxHwInit_aLut_stale`.
* `plxHwInit_inv_iff`.

## References

* `src/node-drivers/base-driver/drivers/vca/plx87xx/plx_hw.c`, lines 71–78, 126–252, 260–333
  and 342–504.
-/

namespace PlxHw

open ALut

/-- The constants of `plx_hw.h` that `plx_hw_init` reads, the PCI device ids of the nodes with
one NTB port, and whether the build defines `VCA_ALUT_CARD_SIDE` and `VCA_ALUT_HOST_SIDE`. -/
structure HwConsts where
  /-- `PLX_EEP_STATUS_CONTROL`. -/
  eepStatusControl : BitVec 32
  /-- `PLX_EEP_EEPPRSNT_MASK` and `PLX_EEP_EEPPRSNT_SHIFT`. -/
  eepPrsntMask : BitVec 32
  eepPrsntShift : Nat
  /-- `PLX_EEP_EEPRRSNT_SIGNATURE_OK`. -/
  eepPrsntSignatureOk : BitVec 32
  /-- `PLX_EEP_EEPCRC_ERR_MASK`. -/
  eepCrcErrMask : BitVec 32
  /-- `PLX_A_LUT_CONTROL` and `PLX_A_LUT_ENABLE`. -/
  aLutControl : BitVec 32
  aLutEnable : BitVec 32
  /-- `PLX_RID_LUT_ENABLE` and `PLX_RID_LUT_ENABLE_1`. -/
  ridLutEnable : BitVec 32
  ridLutEnable1 : BitVec 32
  /-- `PLX_NT0_RID_LUT_VIRTUAL_OFFSET`, `PLX_NT0_RID_LUT_LINK_OFFSET` and those of NT1. -/
  nt0RidLutVirtualOffset : BitVec 32
  nt0RidLutLinkOffset : BitVec 32
  nt1RidLutVirtualOffset : BitVec 32
  nt1RidLutLinkOffset : BitVec 32
  /-- The same four offsets with the suffix `_1`, for the DMA entry. -/
  nt0RidLutVirtualOffset1 : BitVec 32
  nt0RidLutLinkOffset1 : BitVec 32
  nt1RidLutVirtualOffset1 : BitVec 32
  nt1RidLutLinkOffset1 : BitVec 32
  /-- `VCA_DMA_DEVICE`. -/
  vcaDmaDevice : BitVec 8
  /-- `INTEL_VCA_CPU2_UPSTREAM_ID` and `INTEL_VCA_PCI_NODE2_ID`. -/
  cpu2UpstreamId : BitVec 16
  pciNode2Id : BitVec 16
  /-- `VCA_ALUT_CARD_SIDE` and `VCA_ALUT_HOST_SIDE` are defined. -/
  alutCardSide : Bool
  alutHostSide : Bool

/-- What `plx_hw_init` learns from the PCI core. -/
structure PciAnswers where
  /-- What `pci_read_config_dword(pdev, PLX_PORT_ID, &val)` returns, and `val`. -/
  configRc : BitVec 32
  portIdDword : BitVec 32
  /-- `pdev->device`. -/
  device : BitVec 16
  /-- The bus number and `devfn` of the root port `plx_find_root_port` finds, if any. -/
  rootPort : Option (BitVec 8 × BitVec 8)
  /-- `plx_find_root_complex_bus_num(pdev)`. -/
  rootComplexBus : BitVec 8
  /-- `pdev->bus->number` and `pdev->bus->parent->parent->number`. -/
  busNumber : BitVec 8
  grandparentBusNumber : BitVec 8

/-- `-EIO` as an `int`. -/
def eio : BitVec 32 := -5

/-- `-ENXIO` as an `int`. -/
def enxio : BitVec 32 := -6

/-- `_plx_get_reg_base(link_side, port_id)`. -/
def plxGetRegBase (linkSide portId : BitVec 32) : BitVec 32 :=
  0x3E000 - portId * 0x2000 + linkSide * 0x1000

variable (K : HwConsts)

/-- `plx_check_eeprom(xdev)`: 0 when the EEPROM is present with a valid signature and no CRC
error, `-EIO` otherwise. -/
def plxCheckEeprom (mmio : Mmio) : BitVec 32 :=
  let val := mmio K.eepStatusControl
  if (val &&& K.eepPrsntMask) >>> K.eepPrsntShift ≠ K.eepPrsntSignatureOk then eio
  else if val &&& K.eepCrcErrMask ≠ 0 then eio
  else 0

/-- `plx_rid_lut(root_port_bus, root_port_dev, root_complex_bus, root_complex_dev)`. -/
def plxRidLut (rootPortBus rootPortDev rootComplexBus rootComplexDev : BitVec 8) : BitVec 32 :=
  (rootPortBus.setWidth 32 <<< 24) ||| ((rootPortDev &&& 0x0f).setWidth 32 <<< 19) |||
    (rootComplexBus.setWidth 32 <<< 8) ||| ((rootComplexDev &&& 0x0f).setWidth 32 <<< 3) |||
    K.ridLutEnable

/-- `plx_rid_lut_dma(dma_bus, dma_dev)`. -/
def plxRidLutDma (dmaBus dmaDev : BitVec 8) : BitVec 32 :=
  (dmaBus.setWidth 32 <<< 8) ||| ((dmaDev &&& 0x0f).setWidth 32 <<< 3) ||| K.ridLutEnable1

/-- `PCI_SLOT(devfn)`. -/
def pciSlot (devfn : BitVec 8) : BitVec 8 := (devfn >>> 3) &&& 0x1f

/-- `plx_program_rid_lut(xdev, pdev)`: the RID LUT entry of the root port, in the link-side or
virtual-side register of the port; `-ENXIO` when there is no root port. -/
def plxProgramRidLut (xdev : PlxDevice) (pci : PciAnswers) : PlxDevice × BitVec 32 :=
  let virtualRidOffset :=
    if xdev.portId = 0 then K.nt0RidLutVirtualOffset else K.nt1RidLutVirtualOffset
  let linkRidOffset := if xdev.portId = 0 then K.nt0RidLutLinkOffset else K.nt1RidLutLinkOffset
  match pci.rootPort with
  | none => (xdev, enxio)
  | some (bus, devfn) =>
    let ridLut := plxRidLut K bus (pciSlot devfn) pci.rootComplexBus 0
    let offset := if xdev.linkSide then linkRidOffset else virtualRidOffset
    ({ xdev with mmio := plxMmioWrite xdev.mmio ridLut offset }, 0)

/-- `plx_program_rid_lut_dma(xdev, pdev)`, which returns 0: the RID LUT entry of the DMA
engine. -/
def plxProgramRidLutDma (xdev : PlxDevice) (pci : PciAnswers) : PlxDevice :=
  let virtualRidOffset :=
    if xdev.portId = 0 then K.nt0RidLutVirtualOffset1 else K.nt1RidLutVirtualOffset1
  let linkRidOffset := if xdev.portId = 0 then K.nt0RidLutLinkOffset1 else K.nt1RidLutLinkOffset1
  let dmaBusNumber := if xdev.linkSide then pci.busNumber else pci.grandparentBusNumber
  let ridLut := plxRidLutDma K dmaBusNumber K.vcaDmaDevice
  let offset := if xdev.linkSide then linkRidOffset else virtualRidOffset
  { xdev with mmio := plxMmioWrite xdev.mmio ridLut offset }

/-- `plx_a_lut_disable(xdev)`. -/
def plxALutDisable (xdev : PlxDevice) : PlxDevice :=
  { xdev with mmio := plxMmioWrite xdev.mmio 0 (xdev.regBase + K.aLutControl) }

/-- `_plx_a_lut_enable(xdev, pdev)`, which returns 0: disable the A-LUT, clear it, and enable it
when the peer translates through it. -/
def plxALutEnable (C : ALutConsts) (xdev : PlxDevice) : PlxDevice :=
  let xdev := plxALutDisable K xdev
  let xdev := plxALutClear C xdev xdev.aLutArrayBase
  if xdev.aLutPeer then
    { xdev with mmio := plxMmioWrite xdev.mmio K.aLutEnable (xdev.regBase + K.aLutControl) }
  else xdev

/-- The answers of `plx_alm_init`: a geometry, or an error code. -/
inductive AlmInit
  | ok (segmentSize : BitVec 64) (segmentsNum : BitVec 32)
  | failed (rc : BitVec 32)
  deriving DecidableEq, Repr

/-- The answers `plx_alm_init` may give for an aperture of `aperLen` bytes and a table of `cap`
entries: a geometry of at least one segment, or an error. -/
def AlmInit.Valid (cap : Nat) (aperLen : BitVec 64) : AlmInit → Prop
  | .ok segmentSize segmentsNum => AlmGeometry cap ⟨segmentSize, segmentsNum, []⟩ ∧
      0 < segmentsNum.toNat ∧ segmentsNum.toNat * segmentSize.toNat ≤ aperLen.toNat
  | .failed rc => rc ≠ 0

/-- Modelled from the spec: `plx_alm_init(alm, pdev, num_ntbs, aper_len)` after it gave the
answer `ans`. On success the manager has the geometry and no run. -/
def plxAlmInit (alm : PlxAlm) : AlmInit → PlxAlm × BitVec 32
  | .ok segmentSize segmentsNum => (⟨segmentSize, segmentsNum, []⟩, 0)
  | .failed rc => (alm, rc)

/-- The fields `plx_hw_init` derives from the configuration dword `val` at `PLX_PORT_ID`: the link
side, the port id, the register bases of the port and of its peer, and which of the two translates
through the A-LUT. -/
def plxHwInitPort (xdev : PlxDevice) (val : BitVec 32) : PlxDevice :=
  let linkSide : Bool := val &&& 0x80000000 ≠ 0
  let portId := val &&& 1
  { xdev with
    linkSide, portId
    regBase := plxGetRegBase (if linkSide then 1 else 0) portId
    regBasePeer := plxGetRegBase (if linkSide then 0 else 1) portId
    aLut := K.alutCardSide && linkSide || K.alutHostSide && !linkSide
    aLutPeer := K.alutCardSide && !linkSide || K.alutHostSide && linkSide }

/-- The number of NTB ports `plx_hw_init` derives from the PCI device id, and the A-LUT array of
the port. -/
def plxHwInitALutArrayBase (xdev : PlxDevice) (device : BitVec 16) : PlxDevice :=
  let numNtbs := if device = K.cpu2UpstreamId ∨ device = K.pciNode2Id then 1 else 2
  let aLutArrayBase : BitVec 32 :=
    if numNtbs = 2 then
      if !xdev.linkSide then (if xdev.portId = 0 then 0x38000 else 0x3a000)
      else (if xdev.portId = 0 then 0x39000 else 0x3b000)
    else if !xdev.linkSide then 0x38000 else 0x3a000
  { xdev with numNtbs, aLutArrayBase }

/-- `plx_hw_init(xdev, pdev)`, the PCI core answering `pci` and `plx_alm_init` answering `ai`:
the device after, and the return value. -/
def plxHwInit (C : ALutConsts) (xdev : PlxDevice) (pci : PciAnswers) (ai : AlmInit) :
    PlxDevice × BitVec 32 :=
  if pci.configRc ≠ 0 then (xdev, pci.configRc) else
  let xdev := plxHwInitPort K xdev pci.portIdDword
  let rc := if xdev.linkSide then 0 else plxCheckEeprom K xdev.mmio
  if rc ≠ 0 then (xdev, rc) else
  let r := plxProgramRidLut K (plxHwInitALutArrayBase K xdev pci.device) pci
  if r.2 ≠ 0 then r else
  let xdev := plxALutEnable K C (plxProgramRidLutDma K r.1 pci)
  let a := plxAlmInit xdev.aLutManager ai
  ({ xdev with aLutManager := a.1 }, a.2)

/-- The registers `plx_hw_init` writes outside the A-LUT arrays: the A-LUT control register of
each of the four port register bases, and the RID LUT registers. -/
def hwInitRegs : List (BitVec 32) :=
  [plxGetRegBase 0 0, plxGetRegBase 0 1, plxGetRegBase 1 0, plxGetRegBase 1 1].map
      (fun b => b + K.aLutControl) ++
    [K.nt0RidLutVirtualOffset, K.nt0RidLutLinkOffset, K.nt1RidLutVirtualOffset,
      K.nt1RidLutLinkOffset, K.nt0RidLutVirtualOffset1, K.nt0RidLutLinkOffset1,
      K.nt1RidLutVirtualOffset1, K.nt1RidLutLinkOffset1]


/-! ### The loop of `plx_a_lut_clear` -/

section Clear

variable (C : ALutConsts) (offset : BitVec 32)

/-- The loop of `plx_a_lut_clear` writes constants, so a register after it depends only on that
register before it. -/
theorem clearEntries_congr {r : BitVec 32} :
    ∀ (n : Nat) (mmio mmio' : Mmio) (i : Nat), mmio r = mmio' r →
      clearEntries C offset mmio i n r = clearEntries C offset mmio' i n r
  | 0, _, _, _, h => h
  | n + 1, mmio, mmio', i, h => by
    simp only [clearEntries]
    apply clearEntries_congr n
    simp only [plxMmioWrite, Function.update_apply]
    split_ifs <;> first | rfl | exact h

end Clear

private theorem and_one_cases (v : BitVec 32) : v &&& 1#32 = 0#32 ∨ v &&& 1#32 = 1#32 := by
  have h : (v &&& 1#32).toNat = v.toNat % 2 := by
    rw [BitVec.toNat_and, show (1#32).toNat = 1 from rfl, Nat.and_one_is_mod]
  rcases Nat.mod_two_eq_zero_or_one v.toNat with h' | h'
  · exact .inl (BitVec.eq_of_toNat_eq (by rw [h, h']; rfl))
  · exact .inr (BitVec.eq_of_toNat_eq (by rw [h, h']; rfl))

/-! ### What each stage writes -/

section Stages

variable {K} {C : ALutConsts} {xdev : PlxDevice} {pci : PciAnswers} {r : BitVec 32}

@[simp] theorem plxHwInitPort_aLutManager (v : BitVec 32) :
    (plxHwInitPort K xdev v).aLutManager = xdev.aLutManager := rfl

@[simp] theorem plxHwInitALutArrayBase_aLutManager (device : BitVec 16) :
    (plxHwInitALutArrayBase K xdev device).aLutManager = xdev.aLutManager := rfl

@[simp] theorem plxHwInitALutArrayBase_regBase (device : BitVec 16) :
    (plxHwInitALutArrayBase K xdev device).regBase = xdev.regBase := rfl

@[simp] theorem plxProgramRidLut_aLutManager :
    (plxProgramRidLut K xdev pci).1.aLutManager = xdev.aLutManager := by
  unfold plxProgramRidLut; cases pci.rootPort <;> rfl

@[simp] theorem plxProgramRidLut_aLutArrayBase :
    (plxProgramRidLut K xdev pci).1.aLutArrayBase = xdev.aLutArrayBase := by
  unfold plxProgramRidLut; cases pci.rootPort <;> rfl

@[simp] theorem plxProgramRidLut_regBase :
    (plxProgramRidLut K xdev pci).1.regBase = xdev.regBase := by
  unfold plxProgramRidLut; cases pci.rootPort <;> rfl

/-- `plx_program_rid_lut` writes one of the RID LUT registers, if any. -/
theorem plxProgramRidLut_mmio (hr : r ∉ hwInitRegs K) :
    (plxProgramRidLut K xdev pci).1.mmio r = xdev.mmio r := by
  unfold plxProgramRidLut
  cases pci.rootPort
  · rfl
  · refine plxMmioWrite_of_ne _ _ fun h => hr (h ▸ ?_)
    split_ifs <;> simp [hwInitRegs]

@[simp] theorem plxProgramRidLutDma_aLutManager :
    (plxProgramRidLutDma K xdev pci).aLutManager = xdev.aLutManager := rfl

@[simp] theorem plxProgramRidLutDma_aLutArrayBase :
    (plxProgramRidLutDma K xdev pci).aLutArrayBase = xdev.aLutArrayBase := rfl

@[simp] theorem plxProgramRidLutDma_regBase :
    (plxProgramRidLutDma K xdev pci).regBase = xdev.regBase := rfl

/-- `plx_program_rid_lut_dma` writes one of the RID LUT registers. -/
theorem plxProgramRidLutDma_mmio (hr : r ∉ hwInitRegs K) :
    (plxProgramRidLutDma K xdev pci).mmio r = xdev.mmio r := by
  refine plxMmioWrite_of_ne _ _ fun h => hr (h ▸ ?_)
  split_ifs <;> simp [hwInitRegs]

@[simp] theorem plxALutEnable_aLutManager :
    (plxALutEnable K C xdev).aLutManager = plxAlmReset xdev.aLutManager := by
  dsimp only [plxALutEnable]; split <;> rfl

@[simp] theorem plxALutEnable_aLutArrayBase :
    (plxALutEnable K C xdev).aLutArrayBase = xdev.aLutArrayBase := by
  dsimp only [plxALutEnable]; split <;> rfl

/-- Outside the A-LUT control register, `_plx_a_lut_enable` acts as the loop of
`plx_a_lut_clear` over the manager's `segments_num` before it. -/
theorem plxALutEnable_mmio (hr : r ≠ xdev.regBase + K.aLutControl) :
    (plxALutEnable K C xdev).mmio r =
      clearEntries C xdev.aLutArrayBase xdev.mmio 0 xdev.aLutManager.segmentsNum.toNat r := by
  have hd : (plxALutDisable K xdev).mmio r = xdev.mmio r := plxMmioWrite_of_ne _ _ hr
  dsimp only [plxALutEnable]
  split
  · exact (plxMmioWrite_of_ne _ _ hr).trans (clearEntries_congr _ _ _ _ _ _ hd)
  · exact clearEntries_congr _ _ _ _ _ _ hd

private theorem plxHwInitPort_control_mem (v : BitVec 32) :
    (plxHwInitPort K xdev v).regBase + K.aLutControl ∈ hwInitRegs K := by
  rcases and_one_cases v with h | h <;> by_cases hl : v &&& 0x80000000#32 = 0#32 <;>
    simp [plxHwInitPort, hwInitRegs, h, hl]

/-- A successful `plx_hw_init` went through every stage. -/
theorem plxHwInit_of_ret {ss : BitVec 64} {sn : BitVec 32}
    (hret : (plxHwInit K C xdev pci (.ok ss sn)).2 = 0) :
    (plxHwInit K C xdev pci (.ok ss sn)).1 =
      { plxALutEnable K C (plxProgramRidLutDma K (plxProgramRidLut K
          (plxHwInitALutArrayBase K (plxHwInitPort K xdev pci.portIdDword) pci.device) pci).1 pci)
        with aLutManager := ⟨ss, sn, []⟩ } := by
  simp only [plxHwInit] at hret ⊢
  split_ifs at hret ⊢ <;> first | rfl | exact absurd hret ‹_›

theorem plxHwInit_aLutManager {ss : BitVec 64} {sn : BitVec 32}
    (hret : (plxHwInit K C xdev pci (.ok ss sn)).2 = 0) :
    (plxHwInit K C xdev pci (.ok ss sn)).1.aLutManager = ⟨ss, sn, []⟩ := by
  rw [plxHwInit_of_ret hret]

/-- After a successful `plx_hw_init`, a register outside `hwInitRegs` holds what the loop of
`plx_a_lut_clear`, run over the `segments_num` of the context before the call, leaves in it. -/
theorem plxHwInit_mmio {ss : BitVec 64} {sn : BitVec 32}
    (hret : (plxHwInit K C xdev pci (.ok ss sn)).2 = 0) (hr : r ∉ hwInitRegs K) :
    (plxHwInit K C xdev pci (.ok ss sn)).1.mmio r =
      clearEntries C (plxHwInit K C xdev pci (.ok ss sn)).1.aLutArrayBase xdev.mmio 0
        xdev.aLutManager.segmentsNum.toNat r := by
  have hc : (plxHwInitPort K xdev pci.portIdDword).regBase + K.aLutControl ∈ hwInitRegs K :=
    plxHwInitPort_control_mem pci.portIdDword
  rw [plxHwInit_of_ret hret]
  dsimp only
  rw [plxALutEnable_mmio fun h => hr (by rw [h]; simpa using hc)]
  simp only [plxALutEnable_aLutArrayBase, plxProgramRidLutDma_aLutArrayBase,
    plxProgramRidLutDma_aLutManager, plxProgramRidLut_aLutArrayBase, plxProgramRidLut_aLutManager,
    plxHwInitALutArrayBase_aLutManager, plxHwInitPort_aLutManager]
  exact clearEntries_congr _ _ _ _ _ _
    ((plxProgramRidLutDma_mmio hr).trans (plxProgramRidLut_mmio hr))

end Stages

/-! ### The A-LUT after `plx_hw_init` -/

section Stale

variable {K} (L : ALutLayout) {xdev : PlxDevice} {pci : PciAnswers} {ss : BitVec 64}
  {sn : BitVec 32}

/-- After a successful `plx_hw_init`, the manager has the geometry `plx_alm_init` gave and no
run. An entry of the port's A-LUT array whose permission register `plx_hw_init` writes for no
other purpose is cleared only if it lies below the `segments_num` the context held before the
call; every other entry keeps the permission it had. -/
theorem plxHwInit_aLut_stale (hret : (plxHwInit K L.toALutConsts xdev pci (.ok ss sn)).2 = 0)
    (hm : xdev.aLutManager.segmentsNum.toNat ≤ L.capacity) :
    let d := (plxHwInit K L.toALutConsts xdev pci (.ok ss sn)).1
    d.aLutManager = ⟨ss, sn, []⟩ ∧
      ∀ i < L.capacity, L.entryReg d.aLutArrayBase i .permission ∉ hwInitRegs K →
        d.aLutReg L i .permission =
          if i < xdev.aLutManager.segmentsNum.toNat then 0
          else xdev.mmio (L.entryReg d.aLutArrayBase i .permission) := by
  refine ⟨plxHwInit_aLutManager hret, fun i hi hreg => ?_⟩
  rw [PlxDevice.aLutReg, plxHwInit_mmio hret hreg,
    clearEntries_entryReg L .permission _ _ 0 (by omega) hi]
  simp

/-- The session `plx_hw_init` leaves, with no mapping yet, satisfies the A-LUT invariant of the
map and unmap paths exactly when every entry from the `segments_num` of the context before the
call up to the one `plx_alm_init` establishes was already disabled. -/
theorem plxHwInit_inv_iff (hret : (plxHwInit K L.toALutConsts xdev pci (.ok ss sn)).2 = 0)
    (hm : xdev.aLutManager.segmentsNum.toNat ≤ L.capacity)
    (hv : (AlmInit.ok ss sn).Valid L.capacity xdev.aperLen)
    (hreg : ∀ i < sn.toNat, L.entryReg
      (plxHwInit K L.toALutConsts xdev pci (.ok ss sn)).1.aLutArrayBase i .permission ∉
        hwInitRegs K) :
    Inv L ⟨(plxHwInit K L.toALutConsts xdev pci (.ok ss sn)).1, []⟩ ↔
      ∀ i, xdev.aLutManager.segmentsNum.toNat ≤ i → i < sn.toNat →
        xdev.mmio (L.entryReg (plxHwInit K L.toALutConsts xdev pci (.ok ss sn)).1.aLutArrayBase
          i .permission) = 0 := by
  obtain ⟨hmgr, hperm⟩ := plxHwInit_aLut_stale L hret hm
  have hcap : sn.toNat ≤ L.capacity := hv.1.le_capacity
  have hfree : ∀ i, ¬ PlxAlm.Allocated ⟨ss, sn, []⟩ i := fun i ⟨_, hr, _⟩ => absurd hr (by simp)
  constructor
  · intro hs i hmi hi
    have h := hs.permission i (by simp only [hmgr]; exact hi)
    rw [hperm i (by omega) (hreg i hi), if_neg (by omega), hmgr, if_neg (hfree i)] at h
    exact h
  · intro h
    refine ⟨by simpa only [hmgr] using hv.1, by simp [hmgr], by simp [hmgr], ?_, by simp [hmgr],
      by simp, by simp [hmgr]⟩
    intro i hi
    simp only [hmgr] at hi ⊢
    rw [hperm i (by omega) (hreg i hi), if_neg (hfree i)]
    split_ifs with hmi
    · rfl
    · exact h i (by omega) hi

end Stale

/-- Values for the constants of `plx_hw.h`, which is not part of the sources. -/
def sampleHwConsts : HwConsts :=
  ⟨0x260, 0x30000, 16, 1, 0x80000, 0xC94, 1, 1, 1, 0xDB4, 0xDB8, 0xDBC, 0xDC0, 0xDC4, 0xDC8,
    0xDCC, 0xDD0, 0x20, 0x2954, 0x2955, true, false⟩

/-- A freshly allocated device context, its A-LUT left enabled by an earlier load: every
register reads the read/write permission. -/
def freshDevice : PlxDevice :=
  ⟨fun _ => 3, false, 0, 0, 0, false, false, 0, 0, 0, 0x4000, ⟨0, 0, []⟩⟩

/-- A link-side port 0 of a node with two NTB ports. -/
def linkSidePci : PciAnswers := ⟨0, 0x80000000, 0x2956, some (0, 0), 0, 1, 0⟩

theorem plxHwInit_aLut_stale_freshDevice :
    (plxHwInit sampleHwConsts ALutLayout.twoArrays.toALutConsts freshDevice linkSidePci
        (.ok 0x1000 4)).2 = 0 ∧
      freshDevice.aLutManager.segmentsNum.toNat ≤ ALutLayout.twoArrays.capacity ∧
      let d := (plxHwInit sampleHwConsts ALutLayout.twoArrays.toALutConsts freshDevice linkSidePci
        (.ok 0x1000 4)).1
      d.aLutManager = ⟨0x1000, 4, []⟩ ∧
        ∀ i < ALutLayout.twoArrays.capacity,
          ALutLayout.twoArrays.entryReg d.aLutArrayBase i .permission ∉ hwInitRegs sampleHwConsts →
          d.aLutReg ALutLayout.twoArrays i .permission =
            if i < freshDevice.aLutManager.segmentsNum.toNat then 0
            else freshDevice.mmio (ALutLayout.twoArrays.entryReg d.aLutArrayBase i .permission) :=
  by
    refine ⟨by decide, by decide, plxHwInit_aLut_stale ALutLayout.twoArrays (by decide) (by decide)⟩

theorem plxHwInit_inv_iff_freshDevice :
    let d := (plxHwInit sampleHwConsts ALutLayout.twoArrays.toALutConsts freshDevice linkSidePci
      (.ok 0x1000 4)).1
    (plxHwInit sampleHwConsts ALutLayout.twoArrays.toALutConsts freshDevice linkSidePci
        (.ok 0x1000 4)).2 = 0 ∧
      freshDevice.aLutManager.segmentsNum.toNat ≤ ALutLayout.twoArrays.capacity ∧
      (AlmInit.ok 0x1000 4).Valid ALutLayout.twoArrays.capacity freshDevice.aperLen ∧
      (∀ i < (4#32).toNat,
        ALutLayout.twoArrays.entryReg d.aLutArrayBase i .permission ∉ hwInitRegs sampleHwConsts) ∧
      (Inv ALutLayout.twoArrays ⟨d, []⟩ ↔
        ∀ i, freshDevice.aLutManager.segmentsNum.toNat ≤ i → i < (4#32).toNat →
          freshDevice.mmio (ALutLayout.twoArrays.entryReg d.aLutArrayBase i .permission) = 0) := by
  have hv : (AlmInit.ok 0x1000 4).Valid ALutLayout.twoArrays.capacity freshDevice.aperLen :=
    ⟨⟨⟨12, rfl⟩, by decide, by decide⟩, by decide, by decide⟩
  exact ⟨by decide, by decide, hv, by decide,
    plxHwInit_inv_iff ALutLayout.twoArrays (by decide) (by decide) hv (by decide)⟩

end PlxHw
