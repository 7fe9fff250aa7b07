import PlxHw.ALut.Invariant

/-!
# Unmapping right after a map

`plx_ioremap` hands out `aper.va + addr_out` and `plx_iounmap` gives `va - aper.va = addr_out`
back to `plx_del_a_lut_entry`. From a session satisfying the A-LUT invariant, a successful
`plx_add_a_lut_entry(addr, size)` followed at once by `plx_del_a_lut_entry(addr_out)` gives back
the manager as it was and every permission register of the table as it was: `addr_out` passes
the range check, `segments_num * segment_size` not wrapping, and `addr_out / segment_size` is
the segment id the manager answered with.

For a shared run (`-EEXIST`) the whole device comes back; for a fresh run the remap registers of
its entries keep the address they were programmed with, with their permission cleared.

## Main results

* `addrOut_lt_of_lt`, `toNat_addrOut_div`: the arithmetic of the translated address.
* `plxDelALutEntry_plxAddALutEntry`: the round trip.

## References

* `src/node-drivers/base-driver/drivers/vca/plx87xx/plx_hw.c`, lines 599–611, 629–645 and
  855–899.
-/

namespace PlxHw.ALut

/-! ### The translated address -/

section Arith

variable {alm : PlxAlm} {cap : Nat}

/-- The translated address of a segment below `segments_num` is below
`segments_num * segment_size`. -/
private theorem addrOut_lt_of_lt (hg : AlmGeometry cap alm) {sid : BitVec 32}
    (hsid : sid.toNat < alm.segmentsNum.toNat) (addr : BitVec 64) :
    (sid.setWidth 64 * alm.segmentSize + (addr &&& translationMask alm.segmentSize)).toNat <
      alm.segmentsNum.toNat * alm.segmentSize.toNat := by
  have hx := hg.toNat_and_translationMask_lt addr
  have hle : (sid.toNat + 1) * alm.segmentSize.toNat ≤
      alm.segmentsNum.toNat * alm.segmentSize.toNat := Nat.mul_le_mul_right _ hsid
  rw [hg.toNat_addrOut hsid hx]
  rw [Nat.succ_mul] at hle
  omega

/-- Dividing the translated address of a segment by `segment_size` gives the segment back. -/
private theorem toNat_addrOut_div (hg : AlmGeometry cap alm) {sid : BitVec 32}
    (hsid : sid.toNat < alm.segmentsNum.toNat) (addr : BitVec 64) :
    (sid.setWidth 64 * alm.segmentSize + (addr &&& translationMask alm.segmentSize)).toNat /
      alm.segmentSize.toNat = sid.toNat := by
  have hx := hg.toNat_and_translationMask_lt addr
  rw [hg.toNat_addrOut hsid hx, Nat.mul_comm, Nat.mul_add_div hg.segmentSize_pos,
    Nat.div_eq_of_lt hx, Nat.add_zero]

end Arith

/-! ### The round trip -/

section RoundTrip

variable {L : ALutLayout} {s : Session} {addr size : BitVec 64}

/-- The segment id of an allowed answer is below `segments_num`. -/
private theorem segmentId_lt (hs : Inv L s) {ans : AlmAdd}
    (hans : ans.Valid s.dev.aLutManager addr size) {sid : BitVec 32}
    (hsid : ans.segmentId? = some sid) : sid.toNat < s.dev.aLutManager.segmentsNum.toNat := by
  cases ans with
  | added sid' n =>
    cases hsid
    obtain ⟨hn, hfit, -⟩ := hans
    omega
  | eexist sid' =>
    cases hsid
    obtain ⟨r0, hr0, hstart, -⟩ := hans
    have := hs.runs_wf r0 hr0
    omega
  | failed => cases hsid

/-- Unmapping right after a map onto a shared run gives back the device as it was. -/
private theorem del_add_eexist (hs : Inv L s) {sid : BitVec 32}
    (hans : (AlmAdd.eexist sid).Valid s.dev.aLutManager addr size) :
    plxDelALutEntry L.toALutConsts (plxAddALutEntry L.toALutConsts s.dev addr size (.eexist sid)).1
      (sid.setWidth 64 * s.dev.aLutManager.segmentSize +
        (addr &&& translationMask s.dev.aLutManager.segmentSize)) = s.dev := by
  obtain ⟨r0, hr0, hstart, -⟩ := hans
  obtain ⟨hcnt, hfit, hpos⟩ := hs.runs_wf r0 hr0
  have hsid : sid.toNat < s.dev.aLutManager.segmentsNum.toNat := by omega
  set bump := fun r : Run => if r.start = sid.toNat then { r with ref := r.ref + 1 } else r
  have hbump (r : Run) : (bump r).start = r.start ∧ (bump r).count = r.count := by
    simp only [bump]; split_ifs <;> simp
  have hbump0 : bump r0 = { r0 with ref := r0.ref + 1 } := if_pos hstart
  have hfind : (s.dev.aLutManager.runs.map bump).find? (fun r => decide (r.Contains sid.toNat)) =
      some (bump r0) :=
    find?_contains (pairwise_disjoint_map hbump hs.runs_disjoint) (List.mem_map_of_mem bump hr0)
      (by rw [← hstart, ← (hbump r0).1]; exact Run.contains_start ((hbump r0).2 ▸ hcnt))
  -- The manager finds the shared run, whose count does not reach zero: each run comes back.
  have hmgr : plxAlmDelEntry ⟨s.dev.aLutManager.segmentSize, s.dev.aLutManager.segmentsNum,
      s.dev.aLutManager.runs.map bump⟩ sid = (s.dev.aLutManager, 0, 0) := by
    simp only [plxAlmDelEntry, hfind, hbump0, Nat.add_sub_cancel, Nat.pos_iff_ne_zero.mp hpos,
      if_false, List.map_map]
    refine Prod.ext (congrArg (fun runs => ({ s.dev.aLutManager with runs } : PlxAlm))
      ((List.map_congr_left fun r hr => ?_).trans (List.map_id _))) rfl
    by_cases h : r.start = sid.toNat
    · obtain rfl := runs_nodup_start hs.runs_disjoint (fun r hr => (hs.runs_wf r hr).1) hr hr0
        (h.trans hstart.symm)
      simp [hbump0]
    · have hne : r ≠ { r0 with ref := r0.ref + 1 } := fun he => h (by rw [he, hstart])
      simp [bump, h, hne]
  have hd : (plxAddALutEntry L.toALutConsts s.dev addr size (.eexist sid)).1 =
      { s.dev with aLutManager := { s.dev.aLutManager with
        runs := s.dev.aLutManager.runs.map bump } } := rfl
  have hg : AlmGeometry L.capacity
      (plxAddALutEntry L.toALutConsts s.dev addr size (.eexist sid)).1.aLutManager :=
    ⟨hs.geometry.1, hs.geometry.2, hs.geometry.3⟩
  rw [plxDelALutEntry_of_lt L.toALutConsts hg (addrOut_lt_of_lt hs.geometry hsid addr), hd]
  dsimp only
  rw [toNat_addrOut_div hs.geometry hsid, BitVec.ofNat_toNat, BitVec.setWidth_eq, hmgr]
  rfl

/-- Unmapping right after a map onto a fresh run gives back the manager; the registers are those
the map programmed, with the permissions of the run cleared again. -/
private theorem del_add_added (hs : Inv L s) {sid n : BitVec 32}
    (hans : (AlmAdd.added sid n).Valid s.dev.aLutManager addr size) :
    plxDelALutEntry L.toALutConsts (plxAddALutEntry L.toALutConsts s.dev addr size (.added sid n)).1
      (sid.setWidth 64 * s.dev.aLutManager.segmentSize +
        (addr &&& translationMask s.dev.aLutManager.segmentSize)) =
      { s.dev with
        mmio := clearPermissions L.toALutConsts s.dev.aLutArrayBase
          (programEntries L.toALutConsts s.dev.aLutArrayBase s.dev.aLutManager.segmentSize
            s.dev.mmio sid.toNat (s.dev.aLutManager.addrMasked addr) n.toNat) sid.toNat n.toNat } := by
  obtain ⟨hn, hfit, -⟩ := hans
  have hsid : sid.toNat < s.dev.aLutManager.segmentsNum.toNat := by omega
  have hcount : (sid + n).toNat - sid.toNat = n.toNat := by
    have := s.dev.aLutManager.segmentsNum.isLt
    rw [BitVec.toNat_add, Nat.mod_eq_of_lt (by omega)]
    omega
  set new : Run := ⟨sid.toNat, n.toNat, s.dev.aLutManager.addrMasked addr, 1⟩
  -- The manager finds the fresh run, whose count reaches zero, and reports it.
  have hmgr : plxAlmDelEntry ⟨s.dev.aLutManager.segmentSize, s.dev.aLutManager.segmentsNum,
      new :: s.dev.aLutManager.runs⟩ sid = (s.dev.aLutManager, sid, n) := by
    have hfind : (new :: s.dev.aLutManager.runs).find? (fun r => decide (r.Contains sid.toNat)) =
        some new := List.find?_cons_of_pos _ (decide_eq_true (Run.contains_start hn))
    simp only [plxAlmDelEntry, hfind]
    simp only [new, Nat.sub_self, if_true, List.erase_cons_head, BitVec.ofNat_toNat,
      BitVec.setWidth_eq]
  have hn0 : n ≠ 0 := fun h => by simp [h] at hn
  have hd : (plxAddALutEntry L.toALutConsts s.dev addr size (.added sid n)).1 =
      { s.dev with
        mmio := programEntries L.toALutConsts s.dev.aLutArrayBase s.dev.aLutManager.segmentSize
          s.dev.mmio sid.toNat (s.dev.aLutManager.addrMasked addr) n.toNat
        aLutManager := { s.dev.aLutManager with runs := new :: s.dev.aLutManager.runs } } := by
    simp only [plxAddALutEntry, hcount]
    rfl
  have hg : AlmGeometry L.capacity
      (plxAddALutEntry L.toALutConsts s.dev addr size (.added sid n)).1.aLutManager :=
    ⟨hs.geometry.1, hs.geometry.2, hs.geometry.3⟩
  rw [plxDelALutEntry_of_lt L.toALutConsts hg (addrOut_lt_of_lt hs.geometry hsid addr), hd]
  dsimp only
  rw [toNat_addrOut_div hs.geometry hsid, BitVec.ofNat_toNat, BitVec.setWidth_eq, hmgr]
  simp only [ne_eq, hn0, not_false_eq_true, if_true, hcount]

/-- The permission registers of the table after a fresh run is programmed and its permissions
cleared are those before: the run's segments were free, so their permissions were zero. -/
private theorem permission_clear_program (hs : Inv L s) {sid n : BitVec 32}
    (hans : (AlmAdd.added sid n).Valid s.dev.aLutManager addr size) {i : Nat} (hi : i < L.capacity) :
    clearPermissions L.toALutConsts s.dev.aLutArrayBase
        (programEntries L.toALutConsts s.dev.aLutArrayBase s.dev.aLutManager.segmentSize
          s.dev.mmio sid.toNat (s.dev.aLutManager.addrMasked addr) n.toNat) sid.toNat n.toNat
        (L.entryReg s.dev.aLutArrayBase i .permission) = s.dev.aLutReg L i .permission := by
  obtain ⟨hn, hfit, hfree, -⟩ := hans
  have hN := hs.geometry.le_capacity
  rw [clearPermissions_entryReg L _ _ _ _ (by omega) hi,
    programEntries_entryReg L _ _ _ _ _ _ (by omega) hi]
  by_cases hin : sid.toNat ≤ i ∧ i < sid.toNat + n.toNat
  · rw [if_pos ⟨rfl, hin⟩, hs.permission i (by omega), if_neg (hfree i hin.1 hin.2)]
  · rw [if_neg fun h => hin h.2, if_neg hin]
    rfl

/-- From a session satisfying the A-LUT invariant, a successful
`plx_add_a_lut_entry(addr, size)` followed at once by `plx_del_a_lut_entry(addr_out)`: the range
check compares `addr_out` with `segments_num * segment_size` computed without wrap-around and
passes, the segment id computed from `addr_out` is the one the manager answered with, and the
manager and every permission register of the table are as before the map. On a device with the
A-LUT, `plx_iounmap` of the window `plx_ioremap` returned is that call of
`plx_del_a_lut_entry`. -/
theorem plxDelALutEntry_plxAddALutEntry (hs : Inv L s) {ans : AlmAdd}
    (hans : ans.Valid s.dev.aLutManager addr size) {addrOut : BitVec 64}
    (hout : (plxAddALutEntry L.toALutConsts s.dev addr size ans).2 = some addrOut) :
    let d := (plxAddALutEntry L.toALutConsts s.dev addr size ans).1
    let d' := plxDelALutEntry L.toALutConsts d addrOut
    (d.aLutManager.segmentsNum.setWidth 64 * d.aLutManager.segmentSize).toNat =
        d.aLutManager.segmentsNum.toNat * d.aLutManager.segmentSize.toNat ∧
      addrOut < d.aLutManager.segmentsNum.setWidth 64 * d.aLutManager.segmentSize ∧
      ans.segmentId? = some ((addrOut / d.aLutManager.segmentSize).setWidth 32) ∧
      d'.aLutManager = s.dev.aLutManager ∧
      (∀ i < L.capacity, d'.aLutReg L i .permission = s.dev.aLutReg L i .permission) ∧
      (s.dev.aLut = true →
        plxIounmap L.toALutConsts (plxIoremap L.toALutConsts s.dev addr size ans).1
          (plxIoremap L.toALutConsts s.dev addr size ans).2 = d') := by
  intro d d'
  have hunmap := fun h => plxIounmap_plxIoremap L.toALutConsts h hout
  rw [plxAddALutEntry_snd, Option.map_eq_some'] at hout
  obtain ⟨sid, hsid, rfl⟩ := hout
  have hlt := segmentId_lt hs hans hsid
  have hprod := hs.geometry.toNat_segmentsNum_mul
  simp only [d, plxAddALutEntry_aLutManager, plxAlmAddEntry_segmentSize,
    plxAlmAddEntry_segmentsNum]
  refine ⟨hprod, ?_, ?_, ?_⟩
  · rw [BitVec.lt_def, hprod]
    exact addrOut_lt_of_lt hs.geometry hlt addr
  · rw [hsid]
    congr 1
    apply BitVec.eq_of_toNat_eq
    rw [BitVec.toNat_setWidth, BitVec.toNat_udiv, toNat_addrOut_div hs.geometry hlt,
      Nat.mod_eq_of_lt sid.isLt]
  · cases ans with
    | added sid' n =>
      cases hsid
      simp only [d', d]
      rw [del_add_added hs hans] at hunmap ⊢
      exact ⟨rfl, fun i hi => permission_clear_program hs hans hi, hunmap⟩
    | eexist sid' =>
      cases hsid
      simp only [d', d]
      rw [del_add_eexist hs hans] at hunmap ⊢
      exact ⟨rfl, fun _ _ => rfl, hunmap⟩
    | failed => cases hsid

end RoundTrip

theorem plxDelALutEntry_plxAddALutEntry_specExample :
    let L := ALutLayout.twoArrays
    let s := Session.clear L ⟨specExampleDevice, []⟩
    let d := (plxAddALutEntry L.toALutConsts s.dev 0x1800 0x900 (.added 1 2)).1
    let d' := plxDelALutEntry L.toALutConsts d 0x1800
    Inv L s ∧ (AlmAdd.added 1 2).Valid s.dev.aLutManager 0x1800 0x900 ∧
      (plxAddALutEntry L.toALutConsts s.dev 0x1800 0x900 (.added 1 2)).2 = some 0x1800 ∧
      ((d.aLutManager.segmentsNum.setWidth 64 * d.aLutManager.segmentSize).toNat =
          d.aLutManager.segmentsNum.toNat * d.aLutManager.segmentSize.toNat ∧
        0x1800 < d.aLutManager.segmentsNum.setWidth 64 * d.aLutManager.segmentSize ∧
        (AlmAdd.added 1 2).segmentId? = some ((0x1800 / d.aLutManager.segmentSize).setWidth 32) ∧
        d'.aLutManager = s.dev.aLutManager ∧
        (∀ i < L.capacity, d'.aLutReg L i .permission = s.dev.aLutReg L i .permission) ∧
        (s.dev.aLut = true →
          plxIounmap L.toALutConsts (plxIoremap L.toALutConsts s.dev 0x1800 0x900 (.added 1 2)).1
            (plxIoremap L.toALutConsts s.dev 0x1800 0x900 (.added 1 2)).2 = d')) :=
  have hs := inv_clear ALutLayout.twoArrays ⟨specExampleDevice, []⟩ ⟨⟨12, rfl⟩, by decide, by decide⟩
  have hans : (AlmAdd.added 1 2).Valid (Session.clear ALutLayout.twoArrays
      ⟨specExampleDevice, []⟩).dev.aLutManager 0x1800 0x900 :=
    ⟨by decide, by decide, (fun _ _ _ ⟨_, hr, _⟩ => by cases hr), by decide⟩
  have hout : (plxAddALutEntry ALutLayout.twoArrays.toALutConsts (Session.clear ALutLayout.twoArrays
      ⟨specExampleDevice, []⟩).dev 0x1800 0x900 (.added 1 2)).2 = some 0x1800 := by decide
  ⟨hs, hans, hout, plxDelALutEntry_plxAddALutEntry hs hans hout⟩

end PlxHw.ALut
