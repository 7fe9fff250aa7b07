import PlxHw.ALut.Layout

/-!
# The A-LUT segment manager

`struct plx_alm` and the functions `plx_alm_add_entry`, `plx_alm_del_entry` and
`plx_alm_reset` that manage it live in `plx_alm.c`, which is not part of the sources. They are
modelled here from the description of the segment manager (spec §3 and §4.1):

* The manager splits the aperture into `segments_num` segments of `segment_size` bytes. Its
  bookkeeping is a list of runs (`Run`): `count` contiguous segments from `start`, mapping the
  segment-aligned address `addrMasked`, referenced `ref` times.
* `plx_alm_add_entry` may answer in three ways (`AlmAdd`): a fresh run of free segments inside
  the table that covers the request, the start of a live run for the same masked address that
  covers it (`-EEXIST`, its reference count goes up), or a failure. `AlmAdd.Valid` says which
  answers are allowed, and `plxAlmAddEntry` is the bookkeeping after the answer. The driver is
  proved correct for every allowed answer, so for every allocator meeting the description.
* `plxAlmDelEntry` decrements the reference count of the run containing a segment and reports
  the run only when its count reaches zero; `plxAlmReset` empties the bookkeeping.

`AlmGeometry` is what `plx_alm_init` establishes: `segment_size` is a power of two, the segments
fit in the aperture (so in a `u64`), and the table has no more segments than the chip's A-LUT
has entries.

## Main definitions

* `Run`, `PlxAlm`, `PlxAlm.Allocated`, `AlmGeometry`.
* `AlmAdd`, `AlmAdd.Valid`, `plxAlmAddEntry`, `plxAlmDelEntry`, `plxAlmReset`.

## Main results

* `runs_nodup_start`: in disjoint runs of at least one segment, a segment belongs to one run only.
* `find?_contains`: `plx_alm_del_entry` finds the run of a live segment.

## References

* `src/node-drivers/base-driver/drivers/vca/plx87xx/plx_hw.c`, callers of `plx_alm_*`,
  lines 274, 496, 555, 644.
-/

namespace PlxHw.ALut

/-- A run of contiguous segments of the A-LUT: `count` segments from `start`, mapping the
segment-aligned physical address `addrMasked`, referenced by `ref` mappings. -/
structure Run where
  start : Nat
  count : Nat
  addrMasked : BitVec 64
  ref : Nat
  deriving DecidableEq, Repr

namespace Run

/-- Segment `i` belongs to the run. -/
def Contains (r : Run) (i : Nat) : Prop := r.start ≤ i ∧ i < r.start + r.count

instance (r : Run) (i : Nat) : Decidable (r.Contains i) := inferInstanceAs (Decidable (_ ∧ _))

/-- Two runs share no segment. -/
def Disjoint (r r' : Run) : Prop := r.start + r.count ≤ r'.start ∨ r'.start + r'.count ≤ r.start

theorem Disjoint.symm {r r' : Run} (h : r.Disjoint r') : r'.Disjoint r := Or.symm h

theorem Disjoint.not_contains {r r' : Run} {i : Nat} (h : r.Disjoint r') (hi : r.Contains i) :
    ¬ r'.Contains i := by
  unfold Disjoint Contains at *
  omega

theorem contains_start {r : Run} (h : 0 < r.count) : r.Contains r.start :=
  ⟨le_rfl, by omega⟩

end Run

/-- `struct plx_alm`: the segment geometry of a port and the bookkeeping of its live runs. -/
structure PlxAlm where
  segmentSize : BitVec 64
  segmentsNum : BitVec 32
  runs : List Run

namespace PlxAlm

/-- Segment `i` is in a live run. -/
def Allocated (alm : PlxAlm) (i : Nat) : Prop := ∃ r ∈ alm.runs, r.Contains i

instance (alm : PlxAlm) (i : Nat) : Decidable (alm.Allocated i) :=
  inferInstanceAs (Decidable (∃ r ∈ alm.runs, r.Contains i))

/-- The segment-aligned address of `addr`: `addr & ~translation_mask`. -/
def addrMasked (alm : PlxAlm) (addr : BitVec 64) : BitVec 64 :=
  addr &&& ~~~translationMask alm.segmentSize

end PlxAlm

/-- What `plx_alm_init` establishes about the segment geometry: `segment_size` is a power of two,
`segments_num * segment_size` fits in the aperture, a `u64`, and there are no more segments
than the chip's A-LUT has entries (`cap`). -/
structure AlmGeometry (cap : Nat) (alm : PlxAlm) : Prop where
  pow2 : ∃ k, alm.segmentSize.toNat = 2 ^ k
  fits : alm.segmentsNum.toNat * alm.segmentSize.toNat < 2 ^ 64
  le_capacity : alm.segmentsNum.toNat ≤ cap

theorem AlmGeometry.segmentSize_pos {cap : Nat} {alm : PlxAlm} (h : AlmGeometry cap alm) :
    0 < alm.segmentSize.toNat := by
  obtain ⟨k, hk⟩ := h.pow2
  exact hk ▸ Nat.two_pow_pos k

/-- The answers of `plx_alm_add_entry`. -/
inductive AlmAdd
  /-- Returns 0: a fresh run of `segments_num` segments from `segment_id`. -/
  | added (segmentId segmentsNum : BitVec 32)
  /-- Returns `-EEXIST`: the live run from `segment_id` is shared. -/
  | eexist (segmentId : BitVec 32)
  /-- Returns another error. -/
  | failed
  deriving DecidableEq, Repr

namespace AlmAdd

/-- The answers `plx_alm_add_entry` may give to a request for `[addr, addr + size)`: a fresh run
inside the table whose segments are all free and cover the request from `addr`'s offset in its
segment, or the start of a live run for the same masked address covering the request, or a
failure. -/
def Valid (alm : PlxAlm) (addr size : BitVec 64) : AlmAdd → Prop
  | added segmentId segmentsNum =>
      0 < segmentsNum.toNat ∧ segmentId.toNat + segmentsNum.toNat ≤ alm.segmentsNum.toNat ∧
      (∀ i, segmentId.toNat ≤ i → i < segmentId.toNat + segmentsNum.toNat → ¬ alm.Allocated i) ∧
      (addr &&& translationMask alm.segmentSize).toNat + size.toNat ≤
        segmentsNum.toNat * alm.segmentSize.toNat
  | eexist segmentId =>
      ∃ r ∈ alm.runs, r.start = segmentId.toNat ∧ r.addrMasked = alm.addrMasked addr ∧
        (addr &&& translationMask alm.segmentSize).toNat + size.toNat ≤
          r.count * alm.segmentSize.toNat
  | failed => True

/-- The segment id the driver receives with a successful answer. -/
def segmentId? : AlmAdd → Option (BitVec 32)
  | added segmentId _ => some segmentId
  | eexist segmentId => some segmentId
  | failed => none

end AlmAdd

/-- Modelled from the spec: `plx_alm_add_entry(alm, addr, size, &segment_id, &segments_num)`,
the bookkeeping after it gave the answer `ans`. A fresh run is recorded with one reference; a
shared run gains one. -/
def plxAlmAddEntry (alm : PlxAlm) (addr : BitVec 64) : AlmAdd → PlxAlm
  | .added segmentId segmentsNum =>
      { alm with runs := ⟨segmentId.toNat, segmentsNum.toNat, alm.addrMasked addr, 1⟩ :: alm.runs }
  | .eexist segmentId =>
      { alm with runs := alm.runs.map fun r =>
          if r.start = segmentId.toNat then { r with ref := r.ref + 1 } else r }
  | .failed => alm

/-- Modelled from the spec: `plx_alm_del_entry(alm, segment_id, &start_segment, &segments_num)`.
The reference count of the run containing `segment_id` goes down; when it reaches zero the run
is freed and reported as `(start_segment, segments_num)`, otherwise `segments_num` is 0. -/
def plxAlmDelEntry (alm : PlxAlm) (segmentId : BitVec 32) : PlxAlm × BitVec 32 × BitVec 32 :=
  match alm.runs.find? (fun r => decide (r.Contains segmentId.toNat)) with
  | none => (alm, 0, 0)
  | some r =>
    let ref := r.ref - 1
    if ref = 0 then
      ({ alm with runs := alm.runs.erase r }, BitVec.ofNat 32 r.start, BitVec.ofNat 32 r.count)
    else
      ({ alm with runs := alm.runs.map fun r' => if r' = r then { r with ref := ref } else r' },
        0, 0)

/-- Modelled from the spec: `plx_alm_reset(alm)` empties the bookkeeping; the segment geometry
stays. -/
def plxAlmReset (alm : PlxAlm) : PlxAlm := { alm with runs := [] }

@[simp] theorem plxAlmAddEntry_segmentSize (alm : PlxAlm) (addr : BitVec 64) (ans : AlmAdd) :
    (plxAlmAddEntry alm addr ans).segmentSize = alm.segmentSize := by
  cases ans <;> rfl

@[simp] theorem plxAlmAddEntry_segmentsNum (alm : PlxAlm) (addr : BitVec 64) (ans : AlmAdd) :
    (plxAlmAddEntry alm addr ans).segmentsNum = alm.segmentsNum := by
  cases ans <;> rfl

@[simp] theorem plxAlmDelEntry_segmentSize (alm : PlxAlm) (segmentId : BitVec 32) :
    (plxAlmDelEntry alm segmentId).1.segmentSize = alm.segmentSize := by
  unfold plxAlmDelEntry
  split
  · rfl
  · dsimp only
    split <;> rfl

@[simp] theorem plxAlmDelEntry_segmentsNum (alm : PlxAlm) (segmentId : BitVec 32) :
    (plxAlmDelEntry alm segmentId).1.segmentsNum = alm.segmentsNum := by
  unfold plxAlmDelEntry
  split
  · rfl
  · dsimp only
    split <;> rfl

/-! ### Disjoint runs -/

section Disjoint

variable {runs : List Run}

/-- In disjoint runs of at least one segment, a segment belongs to one run only. -/
private theorem runs_eq_of_contains (hd : runs.Pairwise Run.Disjoint) {r r' : Run} (hr : r ∈ runs)
    (hr' : r' ∈ runs) {i : Nat} (hi : r.Contains i) (hi' : r'.Contains i) : r = r' := by
  by_contra hne
  exact (hd.forall (fun _ _ h => Run.Disjoint.symm h) hr hr' hne).not_contains hi hi'

/-- Runs with a segment each and no common segment have distinct starts. -/
theorem runs_nodup_start (hd : runs.Pairwise Run.Disjoint) (hpos : ∀ r ∈ runs, 0 < r.count)
    {r r' : Run} (hr : r ∈ runs) (hr' : r' ∈ runs) (h : r.start = r'.start) : r = r' :=
  runs_eq_of_contains hd hr hr' (Run.contains_start (hpos r hr))
    (h ▸ Run.contains_start (hpos r' hr'))

/-- `plx_alm_del_entry` finds the run of a live segment. -/
theorem find?_contains (hd : runs.Pairwise Run.Disjoint) {r : Run} (hr : r ∈ runs) {i : Nat}
    (hi : r.Contains i) : runs.find? (fun r => decide (r.Contains i)) = some r := by
  have hs : (runs.find? fun r => decide (r.Contains i)).isSome :=
    List.find?_isSome.mpr ⟨r, hr, decide_eq_true hi⟩
  obtain ⟨r', hr'⟩ := Option.isSome_iff_exists.mp hs
  have hc := List.find?_some hr'
  rw [hr', runs_eq_of_contains hd (List.mem_of_find?_eq_some hr') hr (of_decide_eq_true hc) hi]

end Disjoint

end PlxHw.ALut
