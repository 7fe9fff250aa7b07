import PlxHw.HwInit

/-!
# Scratchpads, BAR 2/3 translation and the other register accessors

The two sides of the link pass the address of the boot parameters through two scratchpad
registers: `plx_set_dp_addr` writes the low and the high `u32` of the `u64` with
`plx_write_spad(xdev, PLX_DPLO_SPAD, ...)` and `plx_write_spad(xdev, PLX_DPHI_SPAD, ...)`, and
`plx_get_dp_addr` reads them back as `lo | (hi << 32)`. A scratchpad `idx` is the register
`reg_base + PLX_SPAD0 + idx * 4`, the product taken in `unsigned int`. When the two scratchpads
are different registers, reading the address back gives what was written, and nothing but the
two scratchpads changed (`dp_addr_round_trip`). `plx_program_bar23_at` splits its `u64` the
same way into `PLX_BAR2_AT` and `PLX_BAR3_AT` (`bar23_at_round_trip`).

The other accessors of this file read one register and compute on it: `plx_link_width`,
`plx_link_status`, `plx_read_straps`; `plx_identify_cpu_id` and `plx_dma_filter` answer from what
the PCI core says of the device; `plx_a_lut_peer_enable` writes one register of the peer's
window.

## Main definitions

* `RegConsts`: the constants of `plx_hw.h` these functions read.
* `plxWriteSpad`, `plxReadSpad`, `plxSetDpAddr`, `plxGetDpAddr`, `plxProgramBar23At`.
* `plxLinkWidth`, `plxLinkStatus`, `plxGetState`, `plxReadStraps`, `plxIdentifyCpuId`,
  `plxDmaFilter`, `plxALutPeerEnable`.

## Main results

* `joinU64_lo32_hi32`: the two halves of a `u64` joined back.
* `dp_addr_round_trip`, `bar23_at_round_trip`.

## References

* `src/node-drivers/base-driver/drivers/vca/plx87xx/plx_hw.c`, lines 321–328, 666–700, 770–846,
  904–941, 1266–1283 and 1806–1838.
-/

namespace PlxHw

/-- The constants of `plx_hw.h`, `vca_common.h` and the build that the register accessors read. -/
structure RegConsts where
  /-- `PLX_SPAD0`, `PLX_DPLO_SPAD` and `PLX_DPHI_SPAD`. -/
  spad0 : BitVec 32
  dploSpad : BitVec 32
  dphiSpad : BitVec 32
  /-- `PLX_BAR2_AT` and `PLX_BAR3_AT`. -/
  bar2At : BitVec 32
  bar3At : BitVec 32
  /-- `PLX_LINK_GEN_BITMASK`, `PLX_LINK_GEN_OFFSET` and `PLX_LINK_GEN3_VALUE`. -/
  linkGenBitmask : BitVec 32
  linkGenOffset : Nat
  linkGen3Value : BitVec 32
  /-- `PLX_LINK_WIDTH_BITMASK` and `PLX_LINK_WIDTH_OFFSET`. -/
  linkWidthBitmask : BitVec 32
  linkWidthOffset : Nat
  /-- `VCA_LINK_DOWN`. -/
  vcaLinkDown : BitVec 32
  /-- `MV_STRAPS_GPIO` and `MV_STRAPS_BIT_MASK`. -/
  mvStrapsGpio : BitVec 32
  mvStrapsBitMask : BitVec 32
  /-- `INTEL_VCA_PCI_NODE0_ID`, `INTEL_VCA_PCI_NODE1_ID`, `INTEL_VCA_PCI_NODE2_ID`,
  `PLX_PCI_DEVICE_87B0` and `PLX_PCI_DEVICE_87B1`. -/
  pciNode0Id : BitVec 16
  pciNode1Id : BitVec 16
  pciNode2Id : BitVec 16
  device87B0 : BitVec 16
  device87B1 : BitVec 16
  /-- The build defines `RDK_SUPPORT`. -/
  rdkSupport : Bool

/-- `lo | (hi << 32)` of two `u32` widened to `u64`. -/
def joinU64 (lo hi : BitVec 32) : BitVec 64 := lo.setWidth 64 ||| (hi.setWidth 64 <<< 32)

/-- The halves `(u32)v` and `(u32)(v >> 32)` of a `u64` join back to it. -/
theorem joinU64_lo32_hi32 (v : BitVec 64) : joinU64 (lo32 v) (hi32 v) = v := by
  apply BitVec.eq_of_getLsbD_eq
  intro ⟨i, hi⟩
  simp only [joinU64, lo32, hi32, BitVec.getLsbD_or, BitVec.getLsbD_setWidth,
    BitVec.getLsbD_shiftLeft, BitVec.getLsbD_ushiftRight]
  by_cases h : i < 32
  · simp [h, hi]
  · rw [show 32 + (i - 32) = i by omega]
    simp [h, hi, show i - 32 < 32 by omega, show i - 32 < 64 by omega]

variable (K : RegConsts)

/-! ### Scratchpads and the boot parameters' address -/

section Spad

variable (xdev : PlxDevice)

/-- The register of scratchpad `idx`: `reg_base + PLX_SPAD0 + idx * 4`. -/
def spadReg (idx : BitVec 32) : BitVec 32 := xdev.regBase + K.spad0 + idx * 4

/-- `plx_write_spad(xdev, idx, val)`. -/
def plxWriteSpad (idx val : BitVec 32) : PlxDevice :=
  { xdev with mmio := plxMmioWrite xdev.mmio val (spadReg K xdev idx) }

/-- `plx_read_spad(xdev, idx)`. -/
def plxReadSpad (idx : BitVec 32) : BitVec 32 := xdev.mmio (spadReg K xdev idx)

/-- `plx_set_dp_addr(xdev, dp_addr)`: the low `u32` to `PLX_DPLO_SPAD`, then the high one to
`PLX_DPHI_SPAD`. -/
def plxSetDpAddr (dpAddr : BitVec 64) : PlxDevice :=
  plxWriteSpad K (plxWriteSpad K xdev K.dploSpad (lo32 dpAddr)) K.dphiSpad (hi32 dpAddr)

/-- `plx_get_dp_addr(xdev)`. -/
def plxGetDpAddr : BitVec 64 := joinU64 (plxReadSpad K xdev K.dploSpad) (plxReadSpad K xdev K.dphiSpad)

variable {K xdev}

@[simp] theorem spadReg_plxWriteSpad (idx val : BitVec 32) :
    spadReg K (plxWriteSpad K xdev idx val) = spadReg K xdev := rfl

private theorem plxWriteSpad_mmio (idx val : BitVec 32) :
    (plxWriteSpad K xdev idx val).mmio = plxMmioWrite xdev.mmio val (spadReg K xdev idx) := rfl

private theorem spadReg_ne_iff {idx idx' : BitVec 32} :
    spadReg K xdev idx ≠ spadReg K xdev idx' ↔ idx * 4 ≠ idx' * 4 := by
  simp [spadReg]

/-- Values for the constants of `plx_hw.h`, which is not part of the sources. -/
def sampleRegConsts : RegConsts :=
  ⟨0xC6C, 2, 3, 0xC3C, 0xC40, 0xF0000, 16, 3, 0x3F00000, 20, 0, 0x630, 3, 0x2952, 0x2953, 0x2955,
    0x87B0, 0x87B1, false⟩

/-- Reading back the boot parameters' address gives what `plx_set_dp_addr` wrote, when
`PLX_DPLO_SPAD` and `PLX_DPHI_SPAD` are different registers; `plx_set_dp_addr` changes no other
register and no other field of the device. -/
theorem dp_addr_round_trip (hne : K.dploSpad * 4 ≠ K.dphiSpad * 4) (dpAddr : BitVec 64) :
    plxGetDpAddr K (plxSetDpAddr K xdev dpAddr) = dpAddr ∧
      (∀ r, r ≠ spadReg K xdev K.dploSpad → r ≠ spadReg K xdev K.dphiSpad →
        (plxSetDpAddr K xdev dpAddr).mmio r = xdev.mmio r) ∧
      { plxSetDpAddr K xdev dpAddr with mmio := xdev.mmio } = xdev := by
  have hreg : spadReg K xdev K.dploSpad ≠ spadReg K xdev K.dphiSpad := spadReg_ne_iff.mpr hne
  refine ⟨?_, fun r hlo hhi => ?_, rfl⟩
  · simp only [plxGetDpAddr, plxReadSpad, plxSetDpAddr, plxWriteSpad_mmio, spadReg_plxWriteSpad]
    rw [plxMmioWrite_of_ne _ _ hreg, plxMmioWrite_same, plxMmioWrite_same, joinU64_lo32_hi32]
  · simp only [plxSetDpAddr, plxWriteSpad_mmio, spadReg_plxWriteSpad]
    rw [plxMmioWrite_of_ne _ _ hhi, plxMmioWrite_of_ne _ _ hlo]

theorem dp_addr_round_trip_freshDevice :
    sampleRegConsts.dploSpad * 4 ≠ sampleRegConsts.dphiSpad * 4 ∧
      plxGetDpAddr sampleRegConsts (plxSetDpAddr sampleRegConsts freshDevice 0x123456789ABCDEF0) =
        0x123456789ABCDEF0 ∧
      (∀ r, r ≠ spadReg sampleRegConsts freshDevice sampleRegConsts.dploSpad →
        r ≠ spadReg sampleRegConsts freshDevice sampleRegConsts.dphiSpad →
        (plxSetDpAddr sampleRegConsts freshDevice 0x123456789ABCDEF0).mmio r = freshDevice.mmio r) ∧
      { plxSetDpAddr sampleRegConsts freshDevice 0x123456789ABCDEF0 with mmio := freshDevice.mmio } =
        freshDevice :=
  ⟨by decide, dp_addr_round_trip (by decide) _⟩

end Spad

/-! ### BAR 2/3 address translation -/

/-- `plx_program_bar23_at(xdev, val)`: the low `u32` to `PLX_BAR2_AT`, the high one to
`PLX_BAR3_AT`. -/
def plxProgramBar23At (xdev : PlxDevice) (val : BitVec 64) : PlxDevice :=
  { xdev with
    mmio := plxMmioWrite (plxMmioWrite xdev.mmio (lo32 val) (xdev.regBase + K.bar2At)) (hi32 val)
      (xdev.regBase + K.bar3At) }

/-- The two translation registers `plx_program_bar23_at` writes hold its `u64`, low half first,
when they are different registers, and no other register of the window changes. -/
theorem bar23_at_round_trip {K} {xdev : PlxDevice} (hne : K.bar2At ≠ K.bar3At) (val : BitVec 64) :
    joinU64 ((plxProgramBar23At K xdev val).mmio (xdev.regBase + K.bar2At))
      ((plxProgramBar23At K xdev val).mmio (xdev.regBase + K.bar3At)) = val ∧
    ∀ r, r ≠ xdev.regBase + K.bar2At → r ≠ xdev.regBase + K.bar3At →
      (plxProgramBar23At K xdev val).mmio r = xdev.mmio r := by
  have hreg : xdev.regBase + K.bar2At ≠ xdev.regBase + K.bar3At := by simpa using hne
  simp only [plxProgramBar23At]
  refine ⟨?_, fun r h2 h3 => ?_⟩
  · rw [plxMmioWrite_of_ne _ _ hreg, plxMmioWrite_same, plxMmioWrite_same, joinU64_lo32_hi32]
  · rw [plxMmioWrite_of_ne _ _ h3, plxMmioWrite_of_ne _ _ h2]

theorem bar23_at_round_trip_freshDevice :
    sampleRegConsts.bar2At ≠ sampleRegConsts.bar3At ∧
      joinU64 ((plxProgramBar23At sampleRegConsts freshDevice 0x123456789ABCDEF0).mmio
          (freshDevice.regBase + sampleRegConsts.bar2At))
        ((plxProgramBar23At sampleRegConsts freshDevice 0x123456789ABCDEF0).mmio
          (freshDevice.regBase + sampleRegConsts.bar3At)) = 0x123456789ABCDEF0 ∧
      ∀ r, r ≠ freshDevice.regBase + sampleRegConsts.bar2At →
        r ≠ freshDevice.regBase + sampleRegConsts.bar3At →
        (plxProgramBar23At sampleRegConsts freshDevice 0x123456789ABCDEF0).mmio r =
          freshDevice.mmio r :=
  ⟨by decide, bar23_at_round_trip (by decide) _⟩

/-! ### The link, the straps and the node -/

/-- `plx_link_width(xdev)`, from the value `data` that `plx_link_mmio_read` returns for
`PLX_LINK_STATUS_AND_CONTROL_REGISTER`: the negotiated width, or 0 below Gen 3. -/
def plxLinkWidth (data : BitVec 32) : BitVec 32 :=
  if (data &&& K.linkGenBitmask) >>> K.linkGenOffset ≠ K.linkGen3Value then 0
  else (data &&& K.linkWidthBitmask) >>> K.linkWidthOffset

/-- `plx_link_status(xdev)`, `lbpState` being what `plx_lbp_get_state(xdev)` returns. -/
def plxLinkStatus (data lbpState : BitVec 32) : BitVec 32 :=
  if plxLinkWidth K data = 0 then 0 else if lbpState ≠ K.vcaLinkDown then 1 else 0

/-- `plx_get_state(xdev)`, which is not implemented. -/
def plxGetState : BitVec 32 := 0

/-- `plx_read_straps(xdev)`. -/
def plxReadStraps (mmio : Mmio) : BitVec 32 := mmio K.mvStrapsGpio &&& K.mvStrapsBitMask

/-- `plx_identify_cpu_id(xdev)`, from `pdev->device`: the node's CPU, or `-1`. -/
def plxIdentifyCpuId (device : BitVec 16) : BitVec 32 :=
  if device = K.pciNode0Id ∨ K.rdkSupport ∧ device = K.device87B0 then 0
  else if device = K.pciNode1Id ∨ K.rdkSupport ∧ device = K.device87B1 then 1
  else if device = K.pciNode2Id then 2
  else -1

/-- `plx_dma_filter(chan, param)` for a channel whose DMA device sits on bus `dmaBus`: on the link
side every channel, on the host side those on the bus two levels above the NT port; none when the
configuration read fails. -/
def plxDmaFilter (pci : PciAnswers) (dmaBus : BitVec 8) : Bool :=
  if pci.configRc ≠ 0 then false
  else if pci.portIdDword &&& 0x80000000 ≠ 0 then true
  else pci.grandparentBusNumber = dmaBus

/-- `plx_a_lut_peer_enable(xdev)`: `PLX_A_LUT_ENABLE` to the A-LUT control register of the peer's
window. -/
def plxALutPeerEnable (H : HwConsts) (xdev : PlxDevice) : PlxDevice :=
  { xdev with mmio := plxMmioWrite xdev.mmio H.aLutEnable (xdev.regBasePeer + H.aLutControl) }

end PlxHw
