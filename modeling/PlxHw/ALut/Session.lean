import PlxHw.ALut.Entry

/-!
# Runs of map, unmap and clear on one A-LUT

A `Session` is a device together with the mappings handed out by successful calls of
`plx_add_a_lut_entry` since the last `plx_a_lut_clear` and not yet unmapped. The driver's callers
may call `plx_add_a_lut_entry` with any address and size, `plx_del_a_lut_entry` on the translated
address of a live mapping, and `plx_a_lut_clear` on the device's A-LUT array (`Step`). A run
starts with a clear of a device whose manager has the geometry `plx_alm_init` establishes
(`Reachable`).

`PlxDevice.aLutTranslate` is what the chip does with an address of the aperture: the A-LUT entry
of its segment, if enabled, replaces the segment's base by the entry's remap address.

The invariant `Inv` ties the registers to the manager's bookkeeping and the bookkeeping to the
live mappings:

* the runs are well formed and pairwise disjoint;
* the permission register of an entry below `segments_num` is the read/write value exactly when
  the entry's segment is in a run, and zero otherwise;
* the registers of the `k`-th entry of a run remap `addrMasked + k * segment_size`;
* every live mapping lies in a run (`MapsTo`), and a run's reference count is the number of live
  mappings whose translated address falls in its first segment.

## Main definitions

* `Mapping`, `Session`, `Session.add`, `Session.del`, `Session.clear`, `Step`, `Reachable`.
* `PlxDevice.aLutReg`, `PlxDevice.aLutTranslate`.
* `MapsTo`, `Inv`.

## References

* `src/node-drivers/base-driver/drivers/vca/plx87xx/plx_hw.c`, lines 260–287 and 524–663.
-/

namespace PlxHw

/-- The register of field `f` of A-LUT entry `i` of a device. -/
def PlxDevice.aLutReg (L : ALut.ALutLayout) (d : PlxDevice) (i : Nat) (f : ALut.ALutField) :
    BitVec 32 :=
  d.mmio (L.entryReg d.aLutArrayBase i f)

/-- What the chip does with the address `a` of the aperture: the A-LUT entry of its segment, if
its permission is not zero, sends the segment to the entry's remap address `higher:lower`, and
the offset in the segment is kept. -/
def PlxDevice.aLutTranslate (L : ALut.ALutLayout) (d : PlxDevice) (a : Nat) : Option Nat :=
  let segmentSize := d.aLutManager.segmentSize.toNat
  let j := a / segmentSize
  if d.aLutReg L j .permission = 0 then none
  else some (((d.aLutReg L j .higher).toNat * 2 ^ 32 + (d.aLutReg L j .lower).toNat +
    a % segmentSize) % 2 ^ 64)

namespace ALut

/-- A mapping handed out by a successful `plx_add_a_lut_entry(xdev, addr, size, &addrOut)`. -/
structure Mapping where
  addr : BitVec 64
  size : BitVec 64
  addrOut : BitVec 64
  deriving DecidableEq, Repr

/-- A device and the mappings handed out since the last clear and not yet unmapped. -/
structure Session where
  dev : PlxDevice
  live : List Mapping

variable (L : ALutLayout)

namespace Session

/-- A call of `plx_add_a_lut_entry`, the manager answering `ans`. -/
def add (s : Session) (addr size : BitVec 64) (ans : AlmAdd) : Session :=
  let r := plxAddALutEntry L.toALutConsts s.dev addr size ans
  ⟨r.1, match r.2 with
    | some addrOut => ⟨addr, size, addrOut⟩ :: s.live
    | none => s.live⟩

/-- A call of `plx_del_a_lut_entry` on the translated address of the mapping `m`. -/
def del (s : Session) (m : Mapping) : Session :=
  ⟨plxDelALutEntry L.toALutConsts s.dev m.addrOut, s.live.erase m⟩

/-- A call of `plx_a_lut_clear` on the device's A-LUT array. -/
def clear (s : Session) : Session :=
  ⟨plxALutClear L.toALutConsts s.dev s.dev.aLutArrayBase, []⟩

end Session

/-- One call of an A-LUT path, with an answer of the manager it may give and, for an unmap, the
translated address of a live mapping. -/
inductive Step : Session → Session → Prop
  | add (s : Session) (addr size : BitVec 64) (ans : AlmAdd)
      (hans : ans.Valid s.dev.aLutManager addr size) : Step s (s.add L addr size ans)
  | del (s : Session) (m : Mapping) (hm : m ∈ s.live) : Step s (s.del L m)
  | clear (s : Session) : Step s (s.clear L)

/-- The sessions reached from a clear of a device whose manager has the geometry of
`plx_alm_init`, by any sequence of steps. -/
inductive Reachable : Session → Prop
  | init (dev : PlxDevice) (hg : AlmGeometry L.capacity dev.aLutManager) :
      Reachable (Session.clear L ⟨dev, []⟩)
  | step {s s' : Session} (hs : Reachable s) (hstep : Step L s s') : Reachable s'

/-- The mapping `m` lies in the run `r`: its translated address is `r.start * segment_size` plus
its offset in its segment, `r` remaps its masked address, and `r` covers it. -/
structure MapsTo (alm : PlxAlm) (m : Mapping) (r : Run) : Prop where
  addrOut_toNat : m.addrOut.toNat =
    r.start * alm.segmentSize.toNat + (m.addr &&& translationMask alm.segmentSize).toNat
  addrMasked_eq : r.addrMasked = alm.addrMasked m.addr
  covers : (m.addr &&& translationMask alm.segmentSize).toNat + m.size.toNat ≤
    r.count * alm.segmentSize.toNat

/-- The segment of a mapping's translated address, by which reference counts are kept. -/
def Mapping.segment (alm : PlxAlm) (m : Mapping) : Nat := m.addrOut.toNat / alm.segmentSize.toNat

/-- The A-LUT invariant. -/
structure Inv (s : Session) : Prop where
  geometry : AlmGeometry L.capacity s.dev.aLutManager
  runs_wf : ∀ r ∈ s.dev.aLutManager.runs,
    0 < r.count ∧ r.start + r.count ≤ s.dev.aLutManager.segmentsNum.toNat ∧ 0 < r.ref
  runs_disjoint : s.dev.aLutManager.runs.Pairwise Run.Disjoint
  permission : ∀ i < s.dev.aLutManager.segmentsNum.toNat, s.dev.aLutReg L i .permission =
    if s.dev.aLutManager.Allocated i then L.readWrite else 0
  remap : ∀ r ∈ s.dev.aLutManager.runs, ∀ k < r.count, ∀ f, s.dev.aLutReg L (r.start + k) f =
    fieldValue L.toALutConsts (r.addrMasked + BitVec.ofNat 64 k * s.dev.aLutManager.segmentSize) f
  mapped : ∀ m ∈ s.live, ∃ r ∈ s.dev.aLutManager.runs, MapsTo s.dev.aLutManager m r
  refcount : ∀ r ∈ s.dev.aLutManager.runs,
    r.ref = s.live.countP fun m => m.segment s.dev.aLutManager = r.start

end ALut

end PlxHw
