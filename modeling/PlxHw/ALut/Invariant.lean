import PlxHw.ALut.Session

/-!
# The A-LUT invariant holds along every run

Each A-LUT path keeps `Inv` (`inv_clear`, `inv_add`, `inv_del`), so every reachable session
satisfies it (`Reachable.inv`). From the invariant, the permission register of an entry below
`segments_num` is the read/write value exactly when its segment is in a live run, and every
offset of every live mapping is translated by the chip to the physical address it was mapped
from. A segment is allocated exactly when it lies in the run of a live mapping
(`Inv.allocated_iff`), so the last unmap of a run frees its segments and clears their
permissions (`aLut_registers_of_reachable`).

## Main results

* `inv_of_map_ref`: a call that only changes reference counts keeps the invariant.
* `del_dev_eq`: the device after an unmap.
* `inv_clear`, `inv_add`, `inv_del`: the invariant after each path.
* `Reachable.inv`: the invariant of every reachable session.
* `Inv.translate`: a live mapping is translated to its physical addresses.
* `Inv.allocated_iff`: the allocated segments are those of the runs of live mappings.
* `aLut_registers_of_reachable`: these facts, with the reference counts, for every reachable
  session.

## References

* `src/node-drivers/base-driver/drivers/vca/plx87xx/plx_hw.c`, lines 260–287 and 524–663.
-/

namespace PlxHw.ALut

variable (L : ALutLayout)

/-! ### Segment arithmetic -/

section Arith

variable {alm : PlxAlm} {cap : Nat}

/-- The translated address `segment_id * segment_size + offset` of a segment below
`segments_num` does not wrap. -/
theorem AlmGeometry.toNat_addrOut (hg : AlmGeometry cap alm) {sid : BitVec 32} {x : BitVec 64}
    (hsid : sid.toNat < alm.segmentsNum.toNat) (hx : x.toNat < alm.segmentSize.toNat) :
    (sid.setWidth 64 * alm.segmentSize + x).toNat = sid.toNat * alm.segmentSize.toNat + x.toNat := by
  have hle : sid.toNat * alm.segmentSize.toNat + alm.segmentSize.toNat ≤
      alm.segmentsNum.toNat * alm.segmentSize.toNat := by
    rw [← Nat.succ_mul]
    exact Nat.mul_le_mul_right _ hsid
  have := hg.fits
  have := sid.isLt
  simp only [BitVec.toNat_add, BitVec.toNat_mul, BitVec.toNat_setWidth]
  rw [Nat.mod_eq_of_lt (show sid.toNat < 2 ^ 64 by omega), Nat.mod_eq_of_lt (by omega),
    Nat.mod_eq_of_lt (by omega)]

/-- `segments_num * segment_size`, computed as a `u64`, does not wrap. -/
theorem AlmGeometry.toNat_segmentsNum_mul (hg : AlmGeometry cap alm) :
    (alm.segmentsNum.setWidth 64 * alm.segmentSize).toNat =
      alm.segmentsNum.toNat * alm.segmentSize.toNat := by
  have := alm.segmentsNum.isLt
  rw [BitVec.toNat_mul, BitVec.toNat_setWidth,
    Nat.mod_eq_of_lt (show alm.segmentsNum.toNat < 2 ^ 64 by omega), Nat.mod_eq_of_lt hg.fits]

theorem AlmGeometry.toNat_and_translationMask_lt (hg : AlmGeometry cap alm) (x : BitVec 64) :
    (x &&& translationMask alm.segmentSize).toNat < alm.segmentSize.toNat := by
  obtain ⟨k, hk⟩ := hg.pow2
  rw [toNat_and_translationMask x hk]
  exact Nat.mod_lt _ hg.segmentSize_pos

/-- The segment of a mapping is the start of its run. -/
private theorem MapsTo.segment_eq (hg : AlmGeometry cap alm) {m : Mapping} {r : Run}
    (h : MapsTo alm m r) : m.segment alm = r.start := by
  have := hg.toNat_and_translationMask_lt m.addr
  rw [Mapping.segment, h.addrOut_toNat, Nat.mul_comm, Nat.mul_add_div hg.segmentSize_pos,
    Nat.div_eq_of_lt this, Nat.add_zero]

end Arith

/-! ### Runs -/

private theorem Run.disjoint_of_forall {r r' : Run} (hr : 0 < r.count) (hr' : 0 < r'.count)
    (h : ∀ i, r.Contains i → ¬ r'.Contains i) : r.Disjoint r' := by
  by_contra hd
  unfold Run.Disjoint at hd
  exact h (max r.start r'.start) (by unfold Run.Contains; omega) (by unfold Run.Contains; omega)

/-! ### Clear -/

theorem inv_clear (s : Session) (hg : AlmGeometry L.capacity s.dev.aLutManager) :
    Inv L (s.clear L) where
  geometry := ⟨hg.pow2, hg.fits, hg.le_capacity⟩
  runs_wf := by simp [Session.clear, plxALutClear, plxAlmReset]
  runs_disjoint := by simp [Session.clear, plxALutClear, plxAlmReset]
  permission i hi := by
    have hN := hg.le_capacity
    simp only [Session.clear, plxALutClear, plxAlmReset, PlxDevice.aLutReg] at hi ⊢
    rw [clearEntries_entryReg L _ _ _ _ (by omega) (by omega), if_pos (by omega)]
    simp [PlxAlm.Allocated]
  remap := by simp [Session.clear, plxALutClear, plxAlmReset]
  mapped := by simp [Session.clear]
  refcount := by simp [Session.clear, plxALutClear, plxAlmReset]

/-! ### Changing reference counts -/

section RefChange

variable {alm : PlxAlm} {g : Run → Run}

/-- Changing only reference counts keeps the allocated segments. -/
private theorem allocated_map (hg : ∀ r, (g r).start = r.start ∧ (g r).count = r.count) (i : Nat) :
    ({ alm with runs := alm.runs.map g } : PlxAlm).Allocated i ↔ alm.Allocated i := by
  simp only [PlxAlm.Allocated, List.mem_map, Run.Contains]
  constructor
  · rintro ⟨_, ⟨r, hr, rfl⟩, hi⟩
    exact ⟨r, hr, by rwa [(hg r).1, (hg r).2] at hi⟩
  · rintro ⟨r, hr, hi⟩
    exact ⟨g r, ⟨r, hr, rfl⟩, by rwa [(hg r).1, (hg r).2]⟩

theorem pairwise_disjoint_map (hg : ∀ r, (g r).start = r.start ∧ (g r).count = r.count)
    (h : alm.runs.Pairwise Run.Disjoint) : (alm.runs.map g).Pairwise Run.Disjoint := by
  refine List.pairwise_map.mpr (h.imp fun {r r'} hd => ?_)
  unfold Run.Disjoint at *
  rw [(hg r).1, (hg r).2, (hg r').1, (hg r').2]
  exact hd

end RefChange

/-- A mapping lies in a run whatever else the manager's bookkeeping holds. -/
private theorem MapsTo.congr {alm alm' : PlxAlm} {m : Mapping} {r r' : Run} (h : MapsTo alm m r)
    (hseg : alm'.segmentSize = alm.segmentSize) (hstart : r'.start = r.start)
    (hcount : r'.count = r.count) (hmasked : r'.addrMasked = r.addrMasked) : MapsTo alm' m r' := by
  obtain ⟨h1, h2, h3⟩ := h
  refine ⟨?_, ?_, ?_⟩ <;> simp only [PlxAlm.addrMasked, hseg, hstart, hcount, hmasked] <;>
    assumption

/-- A call that changes only the reference counts of the runs, and no register, keeps the
invariant when every live mapping still lies in a run and the counts are right. -/
private theorem inv_of_map_ref {s s' : Session} (hs : Inv L s) {g : Run → Run}
    (hg : ∀ r, (g r).start = r.start ∧ (g r).count = r.count)
    (hg' : ∀ r, (g r).addrMasked = r.addrMasked)
    (hdev : s'.dev = { s.dev with aLutManager := { s.dev.aLutManager with
      runs := s.dev.aLutManager.runs.map g } })
    (hpos : ∀ r ∈ s.dev.aLutManager.runs, 0 < (g r).ref)
    (hmapped : ∀ m ∈ s'.live, ∃ r ∈ s.dev.aLutManager.runs, MapsTo s.dev.aLutManager m r)
    (hrefcount : ∀ r ∈ s.dev.aLutManager.runs,
      (g r).ref = s'.live.countP fun m => m.segment s.dev.aLutManager = r.start) :
    Inv L s' := by
  obtain ⟨dev', live'⟩ := s'
  dsimp only at hdev
  subst hdev
  refine ⟨⟨hs.geometry.1, hs.geometry.2, hs.geometry.3⟩, ?_,
    pairwise_disjoint_map hg hs.runs_disjoint, fun i hi => ?_, ?_, fun m hm => ?_, ?_⟩
  · simp only [List.mem_map]
    rintro _ ⟨r, hr, rfl⟩
    obtain ⟨h1, h2, -⟩ := hs.runs_wf r hr
    rw [(hg r).1, (hg r).2]
    exact ⟨h1, h2, hpos r hr⟩
  · simp only [allocated_map hg]
    exact hs.permission i hi
  · simp only [List.mem_map]
    rintro _ ⟨r, hr, rfl⟩ k hk f
    rw [(hg r).2] at hk
    rw [(hg r).1, hg']
    exact hs.remap r hr k hk f
  · obtain ⟨r, hr, hmr⟩ := hmapped m hm
    exact ⟨g r, List.mem_map_of_mem _ hr, hmr.congr rfl (hg r).1 (hg r).2 (hg' r)⟩
  · simp only [List.mem_map]
    rintro _ ⟨r, hr, rfl⟩
    rw [(hg r).1]
    exact hrefcount r hr

/-! ### Map -/

section Add

variable {L} {s : Session} {addr size : BitVec 64}

private theorem inv_add_eexist (hs : Inv L s) {sid : BitVec 32}
    (hans : (AlmAdd.eexist sid).Valid s.dev.aLutManager addr size) :
    Inv L (s.add L addr size (.eexist sid)) := by
  obtain ⟨r0, hr0, hstart, hmasked, hcovers⟩ := hans
  set bump := fun r : Run => if r.start = sid.toNat then { r with ref := r.ref + 1 } else r
  have hbump (r : Run) : (bump r).start = r.start ∧ (bump r).count = r.count := by
    simp only [bump]; split_ifs <;> simp
  have hbump' (r : Run) : (bump r).addrMasked = r.addrMasked := by
    simp only [bump]; split_ifs <;> rfl
  have hsid : sid.toNat < s.dev.aLutManager.segmentsNum.toNat := by
    have := hs.runs_wf r0 hr0; omega
  set m0 : Mapping := ⟨addr, size, sid.setWidth 64 * s.dev.aLutManager.segmentSize +
    (addr &&& translationMask s.dev.aLutManager.segmentSize)⟩
  have hm0 : MapsTo s.dev.aLutManager m0 r0 :=
    ⟨by rw [hs.geometry.toNat_addrOut hsid (hs.geometry.toNat_and_translationMask_lt addr), hstart],
      hmasked, hcovers⟩
  have hlive : (s.add L addr size (.eexist sid)).live = m0 :: s.live := rfl
  refine inv_of_map_ref L hs hbump hbump' rfl (fun r hr => ?_) (fun m hm => ?_) (fun r hr => ?_)
  · simp only [bump]
    split_ifs
    · exact Nat.succ_pos _
    · exact (hs.runs_wf r hr).2.2
  · rw [hlive] at hm
    rcases List.mem_cons.mp hm with rfl | hm
    · exact ⟨r0, hr0, hm0⟩
    · exact hs.mapped m hm
  · rw [hlive, List.countP_cons, ← hs.refcount r hr, hm0.segment_eq hs.geometry, hstart]
    by_cases h : r.start = sid.toNat
    · simp [bump, h]
    · simp [bump, h, Ne.symm h]

private theorem inv_add_added (hs : Inv L s) {sid n : BitVec 32}
    (hans : (AlmAdd.added sid n).Valid s.dev.aLutManager addr size) :
    Inv L (s.add L addr size (.added sid n)) := by
  obtain ⟨hn, hfit, hfree, hcovers⟩ := hans
  have hN := hs.geometry.le_capacity
  set new : Run := ⟨sid.toNat, n.toNat, s.dev.aLutManager.addrMasked addr, 1⟩
  have hcount : (sid + n).toNat - sid.toNat = n.toNat := by
    have := s.dev.aLutManager.segmentsNum.isLt
    rw [BitVec.toNat_add, Nat.mod_eq_of_lt (by omega)]
    omega
  set m0 : Mapping := ⟨addr, size, sid.setWidth 64 * s.dev.aLutManager.segmentSize +
    (addr &&& translationMask s.dev.aLutManager.segmentSize)⟩
  have hm0 : MapsTo s.dev.aLutManager m0 new :=
    ⟨hs.geometry.toNat_addrOut (by omega) (hs.geometry.toNat_and_translationMask_lt addr), rfl,
      hcovers⟩
  have hs' : s.add L addr size (.added sid n) =
      ⟨{ s.dev with
        mmio := programEntries L.toALutConsts s.dev.aLutArrayBase s.dev.aLutManager.segmentSize
          s.dev.mmio sid.toNat (s.dev.aLutManager.addrMasked addr) n.toNat
        aLutManager := { s.dev.aLutManager with runs := new :: s.dev.aLutManager.runs } },
        m0 :: s.live⟩ := by
    simp only [Session.add, plxAddALutEntry, hcount]
    rfl
  have hreg (j : Nat) (hj : j < s.dev.aLutManager.segmentsNum.toNat) (f : ALutField) :
      PlxDevice.aLutReg L (s.add L addr size (.added sid n)).dev j f =
        if sid.toNat ≤ j ∧ j < sid.toNat + n.toNat then
          fieldValue L.toALutConsts (s.dev.aLutManager.addrMasked addr +
            BitVec.ofNat 64 (j - sid.toNat) * s.dev.aLutManager.segmentSize) f
        else s.dev.aLutReg L j f := by
    rw [hs']
    exact programEntries_entryReg L _ f _ _ _ _ (by omega) (by omega)
  have hfree' {r : Run} (hr : r ∈ s.dev.aLutManager.runs) {i : Nat} (hi : r.Contains i) :
      ¬ (sid.toNat ≤ i ∧ i < sid.toNat + n.toNat) :=
    fun h => hfree i h.1 h.2 ⟨r, hr, hi⟩
  have hne {r : Run} (hr : r ∈ s.dev.aLutManager.runs) : r.start ≠ sid.toNat := fun h =>
    hfree' hr (Run.contains_start (hs.runs_wf r hr).1) (by omega)
  refine ⟨?_, ?_, ?_, ?_, ?_, ?_, ?_⟩
  · rw [hs']
    exact ⟨hs.geometry.1, hs.geometry.2, hs.geometry.3⟩
  · rw [hs']
    intro r hr
    rcases List.mem_cons.mp hr with rfl | hr
    · exact ⟨hn, hfit, Nat.one_pos⟩
    · exact hs.runs_wf r hr
  · rw [hs']
    refine List.pairwise_cons.mpr ⟨fun r hr => ?_, hs.runs_disjoint⟩
    exact Run.disjoint_of_forall hn (hs.runs_wf r hr).1 fun i hi hri => hfree' hr hri hi
  · intro i hi
    rw [hreg i hi]
    rw [hs'] at hi ⊢
    simp only [PlxAlm.Allocated, List.mem_cons, exists_eq_or_imp]
    by_cases hnew : sid.toNat ≤ i ∧ i < sid.toNat + n.toNat
    · simp [hnew, new, Run.Contains, fieldValue]
    · simp only [hnew, if_false, Run.Contains, new, false_or]
      exact hs.permission i hi
  · intro r hr k hk f
    have hr' : r = new ∨ r ∈ s.dev.aLutManager.runs := by
      rw [hs'] at hr
      exact List.mem_cons.mp hr
    rcases hr' with rfl | hr'
    · simp only [new] at hk ⊢
      rw [hreg _ (by omega) f, if_pos (by omega), show sid.toNat + k - sid.toNat = k by omega]
      rfl
    · have := hs.runs_wf r hr'
      rw [hreg _ (by omega) f, if_neg (hfree' hr' ⟨by omega, by omega⟩)]
      exact hs.remap r hr' k hk f
  · rw [hs']
    intro m hm
    rcases List.mem_cons.mp hm with rfl | hm
    · exact ⟨new, List.mem_cons_self _ _, hm0.congr rfl rfl rfl rfl⟩
    · obtain ⟨r, hr, hmr⟩ := hs.mapped m hm
      exact ⟨r, List.mem_cons_of_mem _ hr, hmr.congr rfl rfl rfl rfl⟩
  · rw [hs']
    have hseg0 : m0.segment s.dev.aLutManager = sid.toNat := hm0.segment_eq hs.geometry
    intro r hr
    change r.ref = List.countP (fun m => decide (m.segment s.dev.aLutManager = r.start))
      (m0 :: s.live)
    rw [List.countP_cons, hseg0]
    rcases List.mem_cons.mp hr with rfl | hr
    · rw [List.countP_eq_zero.mpr]
      · simp [new]
      · intro m hm
        obtain ⟨r, hr, hmr⟩ := hs.mapped m hm
        simpa [hmr.segment_eq hs.geometry, new] using hne hr
    · rw [← hs.refcount r hr, if_neg (Ne.symm (hne hr) ∘ fun h => by simpa using h), Nat.add_zero]

/-- A call of `plx_add_a_lut_entry` keeps the invariant, whatever allowed answer the manager
gives. -/
theorem inv_add (hs : Inv L s) {ans : AlmAdd} (hans : ans.Valid s.dev.aLutManager addr size) :
    Inv L (s.add L addr size ans) := by
  cases ans with
  | added sid n => exact inv_add_added hs hans
  | eexist sid => exact inv_add_eexist hs hans
  | failed => exact hs

end Add

/-! ### Unmap -/

section Del

variable {L} {s : Session}

private theorem countP_eq_erase {l : List Mapping} {m : Mapping} (hm : m ∈ l)
    (p : Mapping → Bool) : l.countP p = (l.erase m).countP p + if p m then 1 else 0 := by
  rw [(List.perm_cons_erase hm).countP_eq p, List.countP_cons]

private theorem runs_nodup {runs : List Run} (hd : runs.Pairwise Run.Disjoint)
    (hpos : ∀ r ∈ runs, 0 < r.count) : runs.Nodup :=
  hd.imp_of_mem fun {r _} hr _ hrr' h => by
    subst h
    exact hrr'.not_contains (Run.contains_start (hpos r hr)) (Run.contains_start (hpos r hr))

/-- `plx_del_a_lut_entry` on an address below `segments_num * segment_size` passes the range check,
the product not wrapping, and asks the manager about the address's segment. -/
theorem plxDelALutEntry_of_lt (C : ALutConsts) {d : PlxDevice} {cap : Nat}
    (hg : AlmGeometry cap d.aLutManager) {addr : BitVec 64}
    (hlt : addr.toNat < d.aLutManager.segmentsNum.toNat * d.aLutManager.segmentSize.toNat) :
    plxDelALutEntry C d addr =
      let res := plxAlmDelEntry d.aLutManager
        (BitVec.ofNat 32 (addr.toNat / d.aLutManager.segmentSize.toNat))
      if res.2.2 ≠ 0 then
        { d with
          aLutManager := res.1
          mmio := clearPermissions C d.aLutArrayBase d.mmio res.2.1.toNat
            ((res.2.1 + res.2.2).toNat - res.2.1.toNat) }
      else { d with aLutManager := res.1 } := by
  have hcheck : ¬ (addr ≥ d.aLutManager.segmentsNum.setWidth 64 * d.aLutManager.segmentSize) := by
    rw [ge_iff_le, BitVec.le_def, hg.toNat_segmentsNum_mul, not_le]
    exact hlt
  have hsid : (addr / d.aLutManager.segmentSize).setWidth 32 =
      BitVec.ofNat 32 (addr.toNat / d.aLutManager.segmentSize.toNat) := by
    apply BitVec.eq_of_toNat_eq
    rw [BitVec.toNat_setWidth, BitVec.toNat_udiv, BitVec.toNat_ofNat]
  simp only [plxDelALutEntry, hcheck, if_false, hsid]

/-- The translated address of a mapping of a run inside the table is below
`segments_num * segment_size`. -/
private theorem MapsTo.addrOut_lt {alm : PlxAlm} {cap : Nat} (hg : AlmGeometry cap alm) {m : Mapping}
    {r : Run} (h : MapsTo alm m r) (hr : r.start < alm.segmentsNum.toNat) :
    m.addrOut.toNat < alm.segmentsNum.toNat * alm.segmentSize.toNat := by
  have := hg.toNat_and_translationMask_lt m.addr
  have : (r.start + 1) * alm.segmentSize.toNat ≤ alm.segmentsNum.toNat * alm.segmentSize.toNat :=
    Nat.mul_le_mul_right _ hr
  rw [h.addrOut_toNat]
  rw [Nat.succ_mul] at this
  omega

variable {m : Mapping} {r : Run}

/-- `plx_del_a_lut_entry` on the translated address of a mapping of the run `r`: when the run's
last reference goes, the run is freed and the permissions of its entries are cleared; otherwise
its reference count drops by one. -/
theorem del_dev_eq (hs : Inv L s) (hr : r ∈ s.dev.aLutManager.runs)
    (hmr : MapsTo s.dev.aLutManager m r) :
    (s.del L m).dev = if r.ref - 1 = 0 then
        { s.dev with
          aLutManager := { s.dev.aLutManager with runs := s.dev.aLutManager.runs.erase r }
          mmio := clearPermissions L.toALutConsts s.dev.aLutArrayBase s.dev.mmio r.start r.count }
      else
        { s.dev with aLutManager := { s.dev.aLutManager with
            runs := s.dev.aLutManager.runs.map fun r' =>
              if r' = r then { r with ref := r.ref - 1 } else r' } } := by
  obtain ⟨hcnt, hfit, -⟩ := hs.runs_wf r hr
  have hN := s.dev.aLutManager.segmentsNum.isLt
  have hstart : (BitVec.ofNat 32 r.start).toNat = r.start := by
    rw [BitVec.toNat_ofNat, Nat.mod_eq_of_lt (by omega)]
  have hcount : (BitVec.ofNat 32 r.count).toNat = r.count := by
    rw [BitVec.toNat_ofNat, Nat.mod_eq_of_lt (by omega)]
  have hsum : (BitVec.ofNat 32 r.start + BitVec.ofNat 32 r.count).toNat - r.start = r.count := by
    rw [BitVec.toNat_add, hstart, hcount, Nat.mod_eq_of_lt (by omega)]
    omega
  have hcnt32 : BitVec.ofNat 32 r.count ≠ 0 := fun h => by
    have := congrArg BitVec.toNat h
    rw [hcount] at this
    simp at this
    omega
  have hdel := plxDelALutEntry_of_lt L.toALutConsts hs.geometry (hmr.addrOut_lt hs.geometry
    (by omega))
  rw [← Mapping.segment, hmr.segment_eq hs.geometry] at hdel
  simp only [plxAlmDelEntry, hstart,
    find?_contains hs.runs_disjoint hr (Run.contains_start hcnt)] at hdel
  by_cases h1 : r.ref - 1 = 0
  · simp only [h1, if_true, ne_eq, hcnt32, not_false_eq_true, hstart, hsum] at hdel
    rw [Session.del, hdel, if_pos h1]
  · simp only [h1, if_false, ne_eq, not_true_eq_false] at hdel
    rw [Session.del, hdel, if_neg h1]

/-- The references of the other runs of the table after `m` is unmapped. -/
private theorem refcount_erase (hs : Inv L s) (hm : m ∈ s.live) (hr : r ∈ s.dev.aLutManager.runs)
    (hmr : MapsTo s.dev.aLutManager m r) {r' : Run} (hr' : r' ∈ s.dev.aLutManager.runs)
    (hne : r' ≠ r) :
    r'.ref = (s.live.erase m).countP fun m' => m'.segment s.dev.aLutManager = r'.start := by
  have hother : r'.start ≠ r.start := fun h => hne (runs_nodup_start hs.runs_disjoint
    (fun r hr => (hs.runs_wf r hr).1) hr' hr h)
  rw [hs.refcount r' hr', countP_eq_erase hm, hmr.segment_eq hs.geometry,
    if_neg (by simpa using hother.symm), Nat.add_zero]

/-- The reference count of the run of `m` counts `m` and the other live mappings of the run. -/
private theorem refcount_eq_erase (hs : Inv L s) (hm : m ∈ s.live) (hr : r ∈ s.dev.aLutManager.runs)
    (hmr : MapsTo s.dev.aLutManager m r) :
    r.ref = ((s.live.erase m).countP fun m' => m'.segment s.dev.aLutManager = r.start) + 1 := by
  rw [hs.refcount r hr, countP_eq_erase hm]
  simp only [hmr.segment_eq hs.geometry, decide_True, if_true]

/-- The unmap of the last mapping of a run keeps the invariant. -/
private theorem inv_del_release (hs : Inv L s) (hm : m ∈ s.live) (hr : r ∈ s.dev.aLutManager.runs)
    (hmr : MapsTo s.dev.aLutManager m r) (h1 : r.ref - 1 = 0) : Inv L (s.del L m) := by
  obtain ⟨hcnt, hfit, hpos⟩ := hs.runs_wf r hr
  have hcap := hs.geometry.le_capacity
  have hnodup := runs_nodup hs.runs_disjoint fun r hr => (hs.runs_wf r hr).1
  have hdev := del_dev_eq hs hr hmr
  rw [if_pos h1] at hdev
  have hmgr : (s.del L m).dev.aLutManager =
      { s.dev.aLutManager with runs := s.dev.aLutManager.runs.erase r } := by rw [hdev]
  have hreg (j : Nat) (hj : j < s.dev.aLutManager.segmentsNum.toNat) (f : ALutField) :
      (s.del L m).dev.aLutReg L j f =
        if f = .permission ∧ r.start ≤ j ∧ j < r.start + r.count then 0
        else s.dev.aLutReg L j f := by
    rw [PlxDevice.aLutReg, hdev]
    exact clearPermissions_entryReg L f _ _ _ (by omega) (by omega)
  have hmem {r' : Run} : r' ∈ s.dev.aLutManager.runs.erase r ↔
      r' ≠ r ∧ r' ∈ s.dev.aLutManager.runs := hnodup.mem_erase_iff
  have hout {r' : Run} (hr' : r' ∈ s.dev.aLutManager.runs) (hne : r' ≠ r) {i : Nat}
      (hi : r'.Contains i) : ¬ r.Contains i :=
    (hs.runs_disjoint.forall (fun _ _ h => Run.Disjoint.symm h) hr' hr hne).not_contains hi
  refine ⟨?_, ?_, ?_, ?_, ?_, ?_, ?_⟩
  · rw [hmgr]
    exact ⟨hs.geometry.1, hs.geometry.2, hs.geometry.3⟩
  · rw [hmgr]
    exact fun r' hr' => hs.runs_wf r' (List.mem_of_mem_erase hr')
  · rw [hmgr]
    exact hs.runs_disjoint.sublist (List.erase_sublist _ _)
  · rw [hmgr]
    intro i hi
    rw [hreg i hi]
    by_cases hir : r.Contains i
    · have hna : ¬ ({ s.dev.aLutManager with runs := s.dev.aLutManager.runs.erase r } :
          PlxAlm).Allocated i := by
        rintro ⟨r', hr', hi'⟩
        obtain ⟨hne, hr'⟩ := hmem.mp hr'
        exact hout hr' hne hi' hir
      rw [if_pos ⟨rfl, hir⟩, if_neg hna]
    · have hiff : ({ s.dev.aLutManager with runs := s.dev.aLutManager.runs.erase r } :
          PlxAlm).Allocated i ↔ s.dev.aLutManager.Allocated i :=
        ⟨fun ⟨r', hr', hi'⟩ => ⟨r', (hmem.mp hr').2, hi'⟩,
          fun ⟨r', hr', hi'⟩ => ⟨r', hmem.mpr ⟨fun h => hir (h ▸ hi'), hr'⟩, hi'⟩⟩
      rw [if_neg fun h => hir h.2]
      simp only [hiff]
      exact hs.permission i hi
  · rw [hmgr]
    intro r' hr' k hk f
    obtain ⟨hne, hr'⟩ := hmem.mp hr'
    have := hs.runs_wf r' hr'
    rw [hreg _ (by omega), if_neg fun h => hout hr' hne ⟨by omega, by omega⟩ h.2]
    exact hs.remap r' hr' k hk f
  · rw [hmgr]
    intro m' hm'
    obtain ⟨r', hr', hmr'⟩ := hs.mapped m' (List.mem_of_mem_erase hm')
    refine ⟨r', hmem.mpr ⟨fun hrr => ?_, hr'⟩, hmr'.congr rfl rfl rfl rfl⟩
    subst hrr
    have hpos' : 0 < (s.live.erase m).countP fun m' =>
        decide (m'.segment s.dev.aLutManager = r'.start) :=
      List.countP_pos_iff.mpr ⟨m', hm', by simpa using hmr'.segment_eq hs.geometry⟩
    have := refcount_eq_erase hs hm hr hmr
    omega
  · rw [hmgr]
    intro r' hr'
    obtain ⟨hne, hr'⟩ := hmem.mp hr'
    exact refcount_erase hs hm hr hmr hr' hne

/-- The unmap of a mapping of a run with other mappings keeps the invariant. -/
private theorem inv_del_decrement (hs : Inv L s) (hm : m ∈ s.live)
    (hr : r ∈ s.dev.aLutManager.runs) (hmr : MapsTo s.dev.aLutManager m r) (h1 : r.ref - 1 ≠ 0) :
    Inv L (s.del L m) := by
  set dec := fun r' : Run => if r' = r then { r with ref := r.ref - 1 } else r'
  have hdec (r' : Run) : (dec r').start = r'.start ∧ (dec r').count = r'.count := by
    simp only [dec]; split_ifs with h <;> simp [h]
  have hdec' (r' : Run) : (dec r').addrMasked = r'.addrMasked := by
    simp only [dec]; split_ifs with h <;> simp [h]
  have hdev := del_dev_eq hs hr hmr
  rw [if_neg h1] at hdev
  refine inv_of_map_ref L hs hdec hdec' hdev (fun r' hr' => ?_)
    (fun m' hm' => hs.mapped m' (List.mem_of_mem_erase hm')) (fun r' hr' => ?_)
  · simp only [dec]
    split_ifs
    · exact Nat.pos_of_ne_zero h1
    · exact (hs.runs_wf r' hr').2.2
  · by_cases hrr : r' = r
    · subst hrr
      have := refcount_eq_erase hs hm hr' hmr
      simp only [dec, if_true]
      exact Nat.sub_eq_of_eq_add this
    · simp only [dec, hrr, if_false]
      exact refcount_erase hs hm hr hmr hr' hrr

/-- A call of `plx_del_a_lut_entry` on the translated address of a live mapping keeps the
invariant. -/
theorem inv_del (hs : Inv L s) (hm : m ∈ s.live) : Inv L (s.del L m) := by
  obtain ⟨r, hr, hmr⟩ := hs.mapped m hm
  by_cases h1 : r.ref - 1 = 0
  · exact inv_del_release hs hm hr hmr h1
  · exact inv_del_decrement hs hm hr hmr h1

end Del

/-! ### Every run -/

/-- Every call of an A-LUT path keeps the invariant. -/
theorem Step.inv {s s' : Session} (h : Step L s s') (hs : Inv L s) : Inv L s' := by
  cases h with
  | add _ _ _ hans => exact inv_add hs hans
  | del _ hm => exact inv_del hs hm
  | clear => exact inv_clear L s hs.geometry

/-- The invariant holds after every completed call of every run. -/
theorem Reachable.inv {s : Session} (h : Reachable L s) : Inv L s := by
  induction h with
  | init dev hg => exact inv_clear L ⟨dev, []⟩ hg
  | step _ hstep ih => exact Step.inv L hstep ih

/-- Under the invariant, the chip translates every offset of a live mapping's window to the
physical address it was mapped from. -/
theorem Inv.translate {s : Session} (hs : Inv L s) {m : Mapping} (hm : m ∈ s.live) {o : Nat}
    (ho : o < m.size.toNat) :
    s.dev.aLutTranslate L (m.addrOut.toNat + o) = some ((m.addr.toNat + o) % 2 ^ 64) := by
  obtain ⟨r, hr, hmr⟩ := hs.mapped m hm
  obtain ⟨hcnt, hfit, -⟩ := hs.runs_wf r hr
  obtain ⟨k, hk⟩ := hs.geometry.pow2
  obtain ⟨haddr, hmasked_eq, hcov⟩ := hmr
  have hseg := hs.geometry.segmentSize_pos
  have hN := s.dev.aLutManager.segmentsNum.isLt
  have hmasked : r.addrMasked.toNat = m.addr.toNat - m.addr.toNat %
      s.dev.aLutManager.segmentSize.toNat := by
    rw [hmasked_eq]
    exact toNat_and_not_translationMask m.addr hk
  have hoff := toNat_and_translationMask m.addr hk
  set seg := s.dev.aLutManager.segmentSize.toNat
  set off := (m.addr &&& translationMask s.dev.aLutManager.segmentSize).toNat
  have hq : (off + o) / seg < r.count := (Nat.div_lt_iff_lt_mul hseg).mpr (by omega)
  have hj : (m.addrOut.toNat + o) / seg = r.start + (off + o) / seg := by
    rw [haddr, Nat.add_assoc, Nat.mul_comm, Nat.mul_add_div hseg]
  have hrem : (m.addrOut.toNat + o) % seg = (off + o) % seg := by
    rw [haddr, Nat.add_assoc, Nat.mul_comm, Nat.mul_add_mod]
  have hremap (f : ALutField) := hs.remap r hr _ hq f
  have hsplit := hi32_mul_add_lo32 (r.addrMasked + BitVec.ofNat 64 ((off + o) / seg) *
    s.dev.aLutManager.segmentSize)
  have hdiv := Nat.div_add_mod' (off + o) seg
  have hoff_le : off ≤ m.addr.toNat := hoff ▸ Nat.mod_le _ _
  simp only [PlxDevice.aLutTranslate, hj, hrem, hremap, fieldValue, L.readWrite_ne_zero, if_false]
  rw [hsplit, BitVec.toNat_add, BitVec.toNat_mul, BitVec.toNat_ofNat, hmasked,
    Nat.mod_eq_of_lt (show (off + o) / seg < 2 ^ 64 by omega),
    show s.dev.aLutManager.segmentSize.toNat = seg from rfl]
  congr 1
  omega

/-- Under the invariant, every run of the table is the run of a live mapping: its reference
count, which is positive, counts the live mappings of its segment. -/
theorem Inv.exists_live {s : Session} (hs : Inv L s) {r : Run} (hr : r ∈ s.dev.aLutManager.runs) :
    ∃ m ∈ s.live, MapsTo s.dev.aLutManager m r := by
  have hpos : 0 < s.live.countP fun m => m.segment s.dev.aLutManager = r.start :=
    hs.refcount r hr ▸ (hs.runs_wf r hr).2.2
  obtain ⟨m, hm, hseg⟩ := List.countP_pos_iff.mp hpos
  obtain ⟨r', hr', hmr'⟩ := hs.mapped m hm
  obtain rfl : r' = r := runs_nodup_start hs.runs_disjoint (fun r hr => (hs.runs_wf r hr).1) hr' hr
    ((hmr'.segment_eq hs.geometry).symm.trans (of_decide_eq_true hseg))
  exact ⟨m, hm, hmr'⟩

/-- Under the invariant, a segment is allocated exactly when it lies in the run of a live
mapping. -/
theorem Inv.allocated_iff {s : Session} (hs : Inv L s) (i : Nat) :
    s.dev.aLutManager.Allocated i ↔
      ∃ m ∈ s.live, ∃ r ∈ s.dev.aLutManager.runs, MapsTo s.dev.aLutManager m r ∧ r.Contains i :=
  ⟨fun ⟨r, hr, hi⟩ => let ⟨m, hm, hmr⟩ := hs.exists_live L hr; ⟨m, hm, r, hr, hmr, hi⟩,
    fun ⟨_, _, r, hr, _, hi⟩ => ⟨r, hr, hi⟩⟩

/-- In every run of map, unmap and clear calls started by a clear, after every completed call:
the permission register of every entry below `segments_num` holds the read/write value exactly
when its segment is allocated, and zero otherwise; a segment is allocated exactly when it lies in
the run of a live mapping, so the last unmap of a run frees it and clears its entries; the
reference count of every run is the number of live mappings of its segment; and every offset of
the window of every live mapping is translated by the chip to the physical address it was mapped
from. -/
theorem aLut_registers_of_reachable {s : Session} (h : Reachable L s) :
    (∀ i < s.dev.aLutManager.segmentsNum.toNat, s.dev.aLutReg L i .permission =
      if s.dev.aLutManager.Allocated i then L.readWrite else 0) ∧
    (∀ i, s.dev.aLutManager.Allocated i ↔
      ∃ m ∈ s.live, ∃ r ∈ s.dev.aLutManager.runs, MapsTo s.dev.aLutManager m r ∧ r.Contains i) ∧
    (∀ r ∈ s.dev.aLutManager.runs,
      r.ref = s.live.countP fun m => m.segment s.dev.aLutManager = r.start) ∧
    ∀ m ∈ s.live, ∀ o < m.size.toNat,
      s.dev.aLutTranslate L (m.addrOut.toNat + o) = some ((m.addr.toNat + o) % 2 ^ 64) :=
  have hs := Reachable.inv L h
  ⟨hs.permission, hs.allocated_iff L, hs.refcount, fun _ hm _ ho => hs.translate L hm ho⟩

end PlxHw.ALut

namespace PlxHw.ALut

/-- A device of the spec's example (§8): four segments of `0x1000` bytes, every register holding
a stale value. -/
def specExampleDevice : PlxDevice :=
  ⟨fun _ => 7, true, 0, 0x3F000, 0x3E000, true, false, 2, 0x39000, 0, 0x4000, ⟨0x1000, 4, []⟩⟩

theorem aLut_registers_of_reachable_specExample :
    let s := (Session.clear ALutLayout.twoArrays ⟨specExampleDevice, []⟩).add ALutLayout.twoArrays
      0x1800 0x900 (.added 1 2)
    Reachable ALutLayout.twoArrays s ∧
      ((∀ i < s.dev.aLutManager.segmentsNum.toNat, s.dev.aLutReg ALutLayout.twoArrays i .permission =
        if s.dev.aLutManager.Allocated i then ALutLayout.twoArrays.readWrite else 0) ∧
      (∀ i, s.dev.aLutManager.Allocated i ↔
        ∃ m ∈ s.live, ∃ r ∈ s.dev.aLutManager.runs, MapsTo s.dev.aLutManager m r ∧ r.Contains i) ∧
      (∀ r ∈ s.dev.aLutManager.runs,
        r.ref = s.live.countP fun m => m.segment s.dev.aLutManager = r.start) ∧
      ∀ m ∈ s.live, ∀ o < m.size.toNat, s.dev.aLutTranslate ALutLayout.twoArrays
        (m.addrOut.toNat + o) = some ((m.addr.toNat + o) % 2 ^ 64)) :=
  have h : Reachable ALutLayout.twoArrays ((Session.clear ALutLayout.twoArrays
      ⟨specExampleDevice, []⟩).add ALutLayout.twoArrays 0x1800 0x900 (.added 1 2)) :=
    .step (.init specExampleDevice ⟨⟨12, rfl⟩, by decide, by decide⟩)
      (.add _ _ _ _ ⟨by decide, by decide, (fun _ _ _ ⟨_, hr, _⟩ => by cases hr), by decide⟩)
  ⟨h, aLut_registers_of_reachable ALutLayout.twoArrays h⟩

end PlxHw.ALut
