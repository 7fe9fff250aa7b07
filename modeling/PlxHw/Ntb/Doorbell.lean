import Mathlib.Logic.Function.Basic
import Mathlib.Data.BitVec

/-!
# Doorbells across the NT port

Each side of the link rings the other through the doorbell registers of the NT port:
`plx_send_intr` writes `DB_TO_MASK(doorbell)` to `PLX_DBIS` of the block the side rings, and the
interrupt handler of the other side calls `plx_ack_interrupt`, which reads the pending doorbells
from `PLX_DBIC` of its own block and writes the value it read back to that register.
`plx_enable_interrupts` and `plx_disable_interrupts` write `0xFFFF` to `PLX_DBIMC` and `PLX_DBIMS`
of the side's own block.

The driver addresses a block by its offset in the side's register window: `intr_reg_base` for
its own block, `peer_intr_reg_base` for the block it rings. `plx_hw_init` sets
`intr_reg_base = 0x10` on the link side and `peer_intr_reg_base = 0x10` on the virtual side, the
other field keeping the 0 of a freshly allocated context (`hwInitIntr`). Each side then rings
the block the other side acknowledges, and never its own (`hwInitIntr_peer_eq_intr`).

What the registers do is the chip's part, not the driver's, and is the assumption of this model
(`DbBlock.write`, `DbBlock.read`): a 1 written to a bit of `PLX_DBIS` sets that doorbell, one
written to `PLX_DBIC` clears it, a read of `PLX_DBIC` returns the pending doorbells, and
`PLX_DBIMS` and `PLX_DBIMC` set and clear bits of the mask; the blocks at one offset of the
link-side and of the virtual-side register windows are the same registers.

A run interleaves `plx_send_intr` calls of either side, each one register write, with the two
register accesses of each side's `plx_ack_interrupt` (`step`, `run`); the handler of a side runs
one call at a time. Since `plx_ack_interrupt` writes back exactly the value it read, and a write
to `PLX_DBIC` clears only the bits written, a doorbell rung between its read and its write stays
pending. Delivery is exactly once, up to doorbells rung again before they are acknowledged:

* every doorbell a side rings is returned by a later `plx_ack_interrupt` of the other side, or
  is still pending when the run ends (`doorbell_not_lost`);
* every doorbell a side's `plx_ack_interrupt` returns was rung by the other side since the
  previous return of it, or was pending when the run began (`doorbell_returned_after_send`).

## Main definitions

* `DbReg`, `DbBlock`, `DbBlock.write`, `DbBlock.read`: the doorbell registers and the chip's
  answer to them.
* `IntrDevice`, `DbAddr`, `plxSendIntr`, `plxAckInterruptReg`, `plxEnableInterrupts`,
  `plxDisableInterrupts`, `plxHwInitIntr`, `hwInitIntr`.
* `State`, `Event`, `step`, `run`.
* `Pending`, `Clear`, `Rings`, `Returns`.

## Main results

* `step_cases`: what one access can do.
* `Pending.run`: a pending doorbell stays pending until an acknowledgement returns it.
* `Clear.run`: a doorbell neither pending nor read stays so, and is not returned, until it is
  rung.
* `doorbell_not_lost`, `doorbell_returned_after_send`.

## References

* `src/node-drivers/base-driver/drivers/vca/plx87xx/plx_hw.c`, lines 426–430 (`plx_hw_init`)
  and 702–751.
-/

namespace PlxHw.Ntb

/-! ### The doorbell registers -/

/-- The doorbell registers of a block: `PLX_DBIS`, `PLX_DBIC`, `PLX_DBIMS` and `PLX_DBIMC` of
`plx_hw.h`. -/
inductive DbReg
  | dbis
  | dbic
  | dbims
  | dbimc
  deriving DecidableEq, Repr

/-- A doorbell block of the NT port: the pending doorbells and their mask. -/
structure DbBlock where
  pending : BitVec 32
  mask : BitVec 32
  deriving DecidableEq, Repr

/-- The chip's answer to a write of `v` to a register of the block (the PEX87xx, not the
sources): write one to set, write one to clear. -/
def DbBlock.write (b : DbBlock) : DbReg → BitVec 32 → DbBlock
  | .dbis, v => { b with pending := b.pending ||| v }
  | .dbic, v => { b with pending := b.pending &&& ~~~v }
  | .dbims, v => { b with mask := b.mask ||| v }
  | .dbimc, v => { b with mask := b.mask &&& ~~~v }

/-- What a read of a register of the block returns (the PEX87xx, not the sources). -/
def DbBlock.read (b : DbBlock) : DbReg → BitVec 32
  | .dbis | .dbic => b.pending
  | .dbims | .dbimc => b.mask

@[simp] theorem DbBlock.write_dbis_pending (b : DbBlock) (v : BitVec 32) :
    (b.write .dbis v).pending = b.pending ||| v := rfl

@[simp] theorem DbBlock.write_dbic_pending (b : DbBlock) (v : BitVec 32) :
    (b.write .dbic v).pending = b.pending &&& ~~~v := rfl

@[simp] theorem DbBlock.write_dbims_pending (b : DbBlock) (v : BitVec 32) :
    (b.write .dbims v).pending = b.pending := rfl

@[simp] theorem DbBlock.write_dbimc_pending (b : DbBlock) (v : BitVec 32) :
    (b.write .dbimc v).pending = b.pending := rfl

/-! ### The driver's accesses -/

/-- The fields of `struct plx_device` that the doorbell functions read: the offsets, in the
device's register window, of its own doorbell block and of the block it rings. -/
structure IntrDevice where
  intrRegBase : BitVec 32
  peerIntrRegBase : BitVec 32
  deriving DecidableEq, Repr

/-- A doorbell register as the driver addresses it, `xdev->reg_base + block + reg`: the offset of
its block in the register window, and the register. -/
structure DbAddr where
  block : BitVec 32
  reg : DbReg
  deriving DecidableEq, Repr

section Driver

variable (dbToMask : BitVec 32 → BitVec 32) (xdev : IntrDevice)

/-- `plx_send_intr(xdev, doorbell)`: the write of `DB_TO_MASK(doorbell)` to `PLX_DBIS` of the block
at `peer_intr_reg_base`. -/
def plxSendIntr (doorbell : BitVec 32) : DbAddr × BitVec 32 :=
  (⟨xdev.peerIntrRegBase, .dbis⟩, dbToMask doorbell)

/-- `plx_enable_interrupts(xdev)`: the write of `0xFFFF` to `PLX_DBIMC` of the device's block. -/
def plxEnableInterrupts : DbAddr × BitVec 32 := (⟨xdev.intrRegBase, .dbimc⟩, 0xFFFF)

/-- `plx_disable_interrupts(xdev)`: the write of `0xFFFF` to `PLX_DBIMS` of the device's block. -/
def plxDisableInterrupts : DbAddr × BitVec 32 := (⟨xdev.intrRegBase, .dbims⟩, 0xFFFF)

/-- The register `plx_ack_interrupt(xdev)` reads, `PLX_DBIC` of the device's block, and writes the
value it read back to. -/
def plxAckInterruptReg : DbAddr := ⟨xdev.intrRegBase, .dbic⟩

/-- The doorbell offsets `plx_hw_init` leaves in a context: `intr_reg_base = 0x10` on the link
side, `peer_intr_reg_base = 0x10` on the virtual side. -/
def plxHwInitIntr (linkSide : Bool) : IntrDevice :=
  if linkSide then { xdev with intrRegBase := 0x10 } else { xdev with peerIntrRegBase := 0x10 }

end Driver

/-- The two sides of a port, `true` for the link side, after `plx_hw_init` on freshly allocated
contexts, whose fields are zero. -/
def hwInitIntr (linkSide : Bool) : IntrDevice := plxHwInitIntr ⟨0, 0⟩ linkSide

/-- Each side rings the block the other side acknowledges. -/
theorem hwInitIntr_peer_eq_intr {a b : Bool} :
    (hwInitIntr a).peerIntrRegBase = (hwInitIntr b).intrRegBase ↔ b = !a := by
  cases a <;> cases b <;> decide

/-- The two sides acknowledge different blocks. -/
theorem hwInitIntr_intr_inj {a b : Bool} :
    (hwInitIntr a).intrRegBase = (hwInitIntr b).intrRegBase ↔ a = b := by
  cases a <;> cases b <;> decide

/-! ### Runs of both sides -/

/-- The doorbell blocks by their offset in a register window, and for each side (`true` for the
link side) the value `reg` that its running `plx_ack_interrupt` has read, `none` when none
runs. -/
structure State where
  chip : BitVec 32 → DbBlock
  ack : Bool → Option (BitVec 32)

/-- The state after the chip answers a write of `v` to `a`. -/
def State.write (s : State) (a : DbAddr) (v : BitVec 32) : State :=
  { s with chip := Function.update s.chip a.block ((s.chip a.block).write a.reg v) }

/-- What a read of `a` returns. -/
def State.read (s : State) (a : DbAddr) : BitVec 32 := (s.chip a.block).read a.reg

/-- One register access of a side. -/
inductive Event
  /-- `plx_send_intr(xdev, doorbell)` of the side. -/
  | send (side : Bool) (doorbell : BitVec 32)
  /-- `plx_enable_interrupts(xdev)` of the side. -/
  | enable (side : Bool)
  /-- `plx_disable_interrupts(xdev)` of the side. -/
  | disable (side : Bool)
  /-- `u32 reg = plx_mmio_read(&xdev->mmio, offset)` in `plx_ack_interrupt` of the side. -/
  | ackRead (side : Bool)
  /-- `plx_mmio_write(&xdev->mmio, reg, offset); return reg;` in `plx_ack_interrupt`. -/
  | ackWrite (side : Bool)
  deriving DecidableEq, Repr

variable (dbToMask : BitVec 32 → BitVec 32) (cfg : Bool → IntrDevice)

/-- One access, with the value `plx_ack_interrupt` returns when the access ends one; `none` when
the side's handler cannot make it (a second `plx_ack_interrupt` while one runs, or a write back
with nothing read). -/
def step (s : State) : Event → Option (State × Option (BitVec 32))
  | .send a doorbell =>
    let w := plxSendIntr dbToMask (cfg a) doorbell
    some (s.write w.1 w.2, none)
  | .enable a =>
    let w := plxEnableInterrupts (cfg a)
    some (s.write w.1 w.2, none)
  | .disable a =>
    let w := plxDisableInterrupts (cfg a)
    some (s.write w.1 w.2, none)
  | .ackRead a =>
    match s.ack a with
    | none =>
      some ({ s with ack := Function.update s.ack a (some (s.read (plxAckInterruptReg (cfg a)))) },
        none)
    | some _ => none
  | .ackWrite a =>
    match s.ack a with
    | some reg =>
      some ({ s.write (plxAckInterruptReg (cfg a)) reg with ack := Function.update s.ack a none },
        some reg)
    | none => none

/-- The accesses of a run, in order: the state after them, and for each access what it returned;
`none` if one cannot be made. -/
def run (s : State) : List Event → Option (State × List (Option (BitVec 32)))
  | [] => some (s, [])
  | e :: es => (step dbToMask cfg s e).bind fun p => (run p.1 es).map fun q => (q.1, p.2 :: q.2)

/-- Doorbell `i` is pending in the block at offset `x`. -/
def Pending (x : BitVec 32) (i : Nat) (s : State) : Prop :=
  (s.chip x).pending.getLsbD i = true

/-- Doorbell `i` is neither pending in the block at `x` nor in a value that a running
`plx_ack_interrupt` of a side acknowledging that block has read. -/
def Clear (x : BitVec 32) (i : Nat) (s : State) : Prop :=
  (s.chip x).pending.getLsbD i = false ∧
    ∀ a r, (cfg a).intrRegBase = x → s.ack a = some r → r.getLsbD i = false

/-- Access `e` is a `plx_send_intr` of a side that rings doorbell `i` of the block at `x`. -/
def Rings (x : BitVec 32) (i : Nat) (e : Event) : Prop :=
  ∃ a d, e = .send a d ∧ (cfg a).peerIntrRegBase = x ∧ (dbToMask d).getLsbD i = true

/-- Access `e`, which returned `o`, ends a `plx_ack_interrupt` of a side acknowledging the block
at `x`, and returned doorbell `i`. -/
def Returns (x : BitVec 32) (i : Nat) (e : Event) (o : Option (BitVec 32)) : Prop :=
  ∃ a r, e = .ackWrite a ∧ (cfg a).intrRegBase = x ∧ o = some r ∧ r.getLsbD i = true

/-! ### One access -/

section Step

variable {dbToMask cfg} {s s' : State} {e : Event} {o : Option (BitVec 32)} {x : BitVec 32}
  {i : Nat}

private theorem State.pending_write (a : DbAddr) (v : BitVec 32) (y : BitVec 32) :
    ((s.write a v).chip y).pending =
      if y = a.block then ((s.chip y).write a.reg v).pending else (s.chip y).pending := by
  by_cases hy : y = a.block
  · subst hy
    simp [State.write]
  · simp [State.write, Function.update_noteq hy, hy]

/-- What one access can do: a ring sets bits of the block it rings; `plx_enable_interrupts` and
`plx_disable_interrupts` change no doorbell and no handler; the read of `plx_ack_interrupt` takes
the pending doorbells of the side's block; its write clears the bits read, and returns them. -/
theorem step_cases (h : step dbToMask cfg s e = some (s', o)) :
    (∃ a d, e = .send a d ∧ o = none ∧ s' = s.write ⟨(cfg a).peerIntrRegBase, .dbis⟩ (dbToMask d)) ∨
    ((∃ a, e = .enable a ∨ e = .disable a) ∧ o = none ∧ s'.ack = s.ack ∧
      ∀ y, (s'.chip y).pending = (s.chip y).pending) ∨
    (∃ a, e = .ackRead a ∧ o = none ∧ s.ack a = none ∧ s'.chip = s.chip ∧
      s'.ack = Function.update s.ack a (some (s.chip (cfg a).intrRegBase).pending)) ∨
    (∃ a reg, e = .ackWrite a ∧ o = some reg ∧ s.ack a = some reg ∧
      s' = { s.write ⟨(cfg a).intrRegBase, .dbic⟩ reg with ack := Function.update s.ack a none }) := by
  cases e with
  | send a d =>
    simp only [step, plxSendIntr, Option.some.injEq, Prod.mk.injEq] at h
    exact .inl ⟨a, d, rfl, h.2.symm, h.1.symm⟩
  | enable a =>
    simp only [step, plxEnableInterrupts, Option.some.injEq, Prod.mk.injEq] at h
    obtain ⟨rfl, rfl⟩ := h
    exact .inr (.inl ⟨⟨a, .inl rfl⟩, rfl, rfl, fun y => by rw [State.pending_write]; simp⟩)
  | disable a =>
    simp only [step, plxDisableInterrupts, Option.some.injEq, Prod.mk.injEq] at h
    obtain ⟨rfl, rfl⟩ := h
    exact .inr (.inl ⟨⟨a, .inr rfl⟩, rfl, rfl, fun y => by rw [State.pending_write]; simp⟩)
  | ackRead a =>
    simp only [step] at h
    split at h
    · simp only [Option.some.injEq, Prod.mk.injEq] at h
      obtain ⟨rfl, rfl⟩ := h
      exact .inr (.inr (.inl ⟨a, rfl, rfl, ‹_›, rfl, rfl⟩))
    · cases h
  | ackWrite a =>
    simp only [step] at h
    split at h
    · simp only [Option.some.injEq, Prod.mk.injEq] at h
      obtain ⟨rfl, rfl⟩ := h
      exact .inr (.inr (.inr ⟨a, _, rfl, rfl, ‹_›, rfl⟩))
    · cases h

/-- A pending doorbell stays pending unless the access returns it. -/
theorem Pending.step (hp : Pending x i s) (h : Ntb.step dbToMask cfg s e = some (s', o)) :
    Pending x i s' ∨ Returns cfg x i e o := by
  have hi : i < 32 := BitVec.lt_of_getLsbD hp
  rcases step_cases h with ⟨a, d, -, -, rfl⟩ | ⟨-, -, -, hpend⟩ | ⟨a, -, -, -, hchip, -⟩ |
      ⟨a, reg, rfl, rfl, -, rfl⟩
  · left
    unfold Pending at hp ⊢
    rw [State.pending_write]
    split_ifs <;> simp [hp]
  · exact .inl (by rw [Pending, hpend]; exact hp)
  · exact .inl (by rw [Pending, hchip]; exact hp)
  · by_cases hx : (cfg a).intrRegBase = x ∧ reg.getLsbD i = true
    · exact .inr ⟨a, reg, rfl, hx.1, rfl, hx.2⟩
    · left
      unfold Pending at hp ⊢
      show ((s.write _ reg).chip x).pending.getLsbD i = true
      rw [State.pending_write]
      split_ifs with hb
      · simp only [DbBlock.write_dbic_pending, BitVec.getLsbD_and, BitVec.getLsbD_not, hp, hi,
          decide_True, Bool.true_and]
        simpa [hb] using hx
      · exact hp

/-- The access that rings a doorbell leaves it pending. -/
theorem Rings.pending (hr : Rings dbToMask cfg x i e) (h : Ntb.step dbToMask cfg s e = some (s', o)) :
    Pending x i s' := by
  obtain ⟨a, d, rfl, rfl, hd⟩ := hr
  simp only [step, plxSendIntr, Option.some.injEq, Prod.mk.injEq] at h
  rw [← h.1, Pending, State.pending_write, if_pos rfl]
  simp [hd]

/-- An access that does not ring a clear doorbell keeps it clear. -/
theorem Clear.step (hc : Clear cfg x i s) (h : Ntb.step dbToMask cfg s e = some (s', o))
    (hr : ¬ Rings dbToMask cfg x i e) : Clear cfg x i s' := by
  obtain ⟨hp, hack⟩ := hc
  rcases step_cases h with ⟨a, d, rfl, -, rfl⟩ | ⟨-, -, hacks, hpend⟩ | ⟨a, -, -, -, hchip, hacks⟩ |
      ⟨a, reg, -, -, hreg, rfl⟩
  · refine ⟨?_, hack⟩
    rw [State.pending_write]
    split_ifs with hb
    · have hd : (dbToMask d).getLsbD i = false := by
        simpa using fun h' => hr ⟨a, d, rfl, hb.symm, h'⟩
      simp [hp, hd]
    · exact hp
  · exact ⟨by rw [hpend]; exact hp, by rw [hacks]; exact hack⟩
  · refine ⟨by rw [hchip]; exact hp, fun b r hb hr' => ?_⟩
    rw [hacks, Function.update_apply] at hr'
    split_ifs at hr' with hab
    · subst hab
      cases hr'
      rwa [hb]
    · exact hack b r hb hr'
  · refine ⟨?_, fun b r hb hr' => ?_⟩
    · show ((s.write _ reg).chip x).pending.getLsbD i = false
      rw [State.pending_write]
      split_ifs
      · simp [hp]
      · exact hp
    · change Function.update s.ack a none b = some r at hr'
      rw [Function.update_apply] at hr'
      split_ifs at hr'
      exact hack b r hb hr'

/-- A clear doorbell is not returned: a `plx_ack_interrupt` returns what it read. -/
theorem Clear.not_returns (hc : Clear cfg x i s) (h : Ntb.step dbToMask cfg s e = some (s', o)) :
    ¬ Returns cfg x i e o := by
  rintro ⟨a, r, rfl, hx, rfl, hr⟩
  rcases step_cases h with ⟨_, _, he, -⟩ | ⟨⟨_, he | he⟩, -⟩ | ⟨_, he, -⟩ |
      ⟨b, reg, he, ho, hreg, -⟩ <;> cases he
  cases ho
  rw [hc.2 a r hx hreg] at hr
  cases hr

/-- After an acknowledgement returns a doorbell of a block that only its side acknowledges, the
doorbell is clear. -/
theorem Returns.clear (hu : ∀ a b, (cfg a).intrRegBase = x → (cfg b).intrRegBase = x → a = b)
    (hret : Returns cfg x i e o) (h : Ntb.step dbToMask cfg s e = some (s', o)) :
    Clear cfg x i s' := by
  obtain ⟨a, r, rfl, hx, rfl, hr⟩ := hret
  rcases step_cases h with ⟨_, _, he, -⟩ | ⟨⟨_, he | he⟩, -⟩ | ⟨_, he, -⟩ |
      ⟨b, reg, he, ho, -, rfl⟩ <;> cases he
  cases ho
  refine ⟨?_, fun b' r' hb' hr' => ?_⟩
  · show ((s.write _ r).chip x).pending.getLsbD i = false
    rw [State.pending_write, if_pos hx.symm]
    simp [hr, BitVec.lt_of_getLsbD hr]
  · rw [hu b' a hb' hx] at hr'
    simp at hr'

end Step

/-! ### Whole runs -/

section Run

variable {dbToMask cfg} {x : BitVec 32} {i : Nat}

private theorem run_cons_eq_some {s s' : State} {e : Event} {es : List Event}
    {rets : List (Option (BitVec 32))} :
    run dbToMask cfg s (e :: es) = some (s', rets) ↔
      ∃ s1 o os, step dbToMask cfg s e = some (s1, o) ∧ run dbToMask cfg s1 es = some (s', os) ∧
        rets = o :: os := by
  simp only [run, Option.bind_eq_some, Option.map_eq_some', Prod.mk.injEq, Prod.exists]
  constructor
  · rintro ⟨s1, o, h1, s2, os, h2, rfl, rfl⟩
    exact ⟨s1, o, os, h1, h2, rfl⟩
  · rintro ⟨s1, o, os, h1, h2, rfl⟩
    exact ⟨s1, o, h1, s', os, h2, rfl, rfl⟩

/-- A pending doorbell is still pending at the end of a run, or an access of the run returned
it. -/
theorem Pending.run : ∀ {s s' : State} {evs : List Event} {rets : List (Option (BitVec 32))},
    Pending x i s → Ntb.run dbToMask cfg s evs = some (s', rets) →
    Pending x i s' ∨ ∃ (j : Nat) (e : Event) (o : Option (BitVec 32)),
      evs[j]? = some e ∧ rets[j]? = some o ∧ Returns cfg x i e o
  | s, s', [], rets, hp, h => by
    simp only [Ntb.run, Option.some.injEq, Prod.mk.injEq] at h
    obtain ⟨rfl, -⟩ := h
    exact .inl hp
  | s, s', e :: es, rets, hp, h => by
    obtain ⟨s1, o, os, h1, h2, rfl⟩ := run_cons_eq_some.mp h
    rcases hp.step h1 with hp1 | hret
    · rcases Pending.run hp1 h2 with hp' | ⟨j, e', o', hj, hj', hret⟩
      · exact .inl hp'
      · exact .inr ⟨j + 1, e', o', by simpa using hj, by simpa using hj', hret⟩
    · exact .inr ⟨0, e, o, List.getElem?_cons_zero, List.getElem?_cons_zero, hret⟩

/-- A clear doorbell is returned by no access of a run before an access rings it. -/
theorem Clear.run : ∀ {s s' : State} {evs : List Event} {rets : List (Option (BitVec 32))},
    Clear cfg x i s → Ntb.run dbToMask cfg s evs = some (s', rets) → ∀ j : Nat,
    (∀ k < j, ∀ e, evs[k]? = some e → ¬ Rings dbToMask cfg x i e) →
    ∀ e o, evs[j]? = some e → rets[j]? = some o → ¬ Returns cfg x i e o
  | _, _, [], _, _, _, _, _, _, _, he, _ => by simp at he
  | s, s', e0 :: es, rets, hc, h, j, hnr, e, o, he, ho => by
    obtain ⟨s1, o0, os, h1, h2, rfl⟩ := run_cons_eq_some.mp h
    cases j with
    | zero =>
      simp only [List.getElem?_cons_zero, Option.some.injEq] at he ho
      subst he ho
      exact hc.not_returns h1
    | succ j =>
      simp only [List.getElem?_cons_succ] at he ho
      have hc1 := hc.step h1 (hnr 0 (Nat.succ_pos j) e0 List.getElem?_cons_zero)
      exact Clear.run hc1 h2 j (fun k hk e' he' => hnr (k + 1) (by omega) e' (by simpa using he'))
        e o he ho

/-- A rung doorbell is still pending at the end of a run, or a later access returned it. -/
theorem Rings.pending_or_returned : ∀ {s s' : State} {evs : List Event}
    {rets : List (Option (BitVec 32))} {k : Nat} {e : Event},
    Ntb.run dbToMask cfg s evs = some (s', rets) → evs[k]? = some e → Rings dbToMask cfg x i e →
    Pending x i s' ∨ ∃ j, k < j ∧ ∃ (e : Event) (o : Option (BitVec 32)),
      evs[j]? = some e ∧ rets[j]? = some o ∧ Returns cfg x i e o
  | _, _, [], _, _, _, _, hk, _ => by simp at hk
  | s, s', e0 :: es, rets, k, e, h, hk, hr => by
    obtain ⟨s1, o, os, h1, h2, rfl⟩ := run_cons_eq_some.mp h
    cases k with
    | zero =>
      simp only [List.getElem?_cons_zero, Option.some.injEq] at hk
      subst hk
      rcases Pending.run (hr.pending h1) h2 with hp | ⟨j, e', o', hj, hj', hret⟩
      · exact .inl hp
      · exact .inr ⟨j + 1, Nat.succ_pos j, e', o', by simpa using hj, by simpa using hj', hret⟩
    | succ k =>
      simp only [List.getElem?_cons_succ] at hk
      rcases Rings.pending_or_returned h2 hk hr with hp | ⟨j, hkj, e', o', hj, hj', hret⟩
      · exact .inl hp
      · exact .inr ⟨j + 1, by omega, e', o', by simpa using hj, by simpa using hj', hret⟩

/-- A clear doorbell that a run returns was rung before. -/
theorem Clear.rung_before {s s' : State} {evs : List Event} {rets : List (Option (BitVec 32))}
    (hc : Clear cfg x i s) (h : Ntb.run dbToMask cfg s evs = some (s', rets)) {j : Nat}
    {e : Event} {o : Option (BitVec 32)} (he : evs[j]? = some e) (ho : rets[j]? = some o)
    (hret : Returns cfg x i e o) :
    ∃ k < j, ∃ e', evs[k]? = some e' ∧ Rings dbToMask cfg x i e' := by
  by_contra hnr
  push_neg at hnr
  exact Clear.run hc h j hnr e o he ho hret

/-- Between two returns of a doorbell of a block that only one side acknowledges, a ring of it. -/
theorem Returns.rung_between
    (hu : ∀ a b, (cfg a).intrRegBase = x → (cfg b).intrRegBase = x → a = b) :
    ∀ {s s' : State} {evs : List Event} {rets : List (Option (BitVec 32))} {j' j : Nat}
      {e' e : Event} {o' o : Option (BitVec 32)},
    Ntb.run dbToMask cfg s evs = some (s', rets) → j' < j →
    evs[j']? = some e' → rets[j']? = some o' → Returns cfg x i e' o' →
    evs[j]? = some e → rets[j]? = some o → Returns cfg x i e o →
    ∃ k, j' < k ∧ k < j ∧ ∃ e'', evs[k]? = some e'' ∧ Rings dbToMask cfg x i e''
  | _, _, [], _, _, _, _, _, _, _, _, _, he', _, _, _, _, _ => by simp at he'
  | s, s', e0 :: es, rets, j', j, e', e, o', o, h, hjj, he', ho', hret', he, ho, hret => by
    obtain ⟨s1, o0, os, h1, h2, rfl⟩ := run_cons_eq_some.mp h
    obtain ⟨j, rfl⟩ : ∃ j0, j = j0 + 1 := ⟨j - 1, by omega⟩
    simp only [List.getElem?_cons_succ] at he ho
    cases j' with
    | zero =>
      simp only [List.getElem?_cons_zero, Option.some.injEq] at he' ho'
      subst he' ho'
      obtain ⟨k, hk, e'', hk', hr⟩ := (hret'.clear hu h1).rung_before h2 he ho hret
      exact ⟨k + 1, Nat.succ_pos k, by omega, e'', by simpa using hk', hr⟩
    | succ j' =>
      simp only [List.getElem?_cons_succ] at he' ho'
      obtain ⟨k, hk1, hk2, e'', hk', hr⟩ :=
        Returns.rung_between hu h2 (by omega) he' ho' hret' he ho hret
      exact ⟨k + 1, by omega, by omega, e'', by simpa using hk', hr⟩

end Run

/-! ### The two sides after `plx_hw_init` -/

section HwInit

variable {dbToMask} {s s' : State} {evs : List Event} {rets : List (Option (BitVec 32))} {i : Nat}

theorem rings_hwInitIntr_iff {b : Bool} {e : Event} :
    Rings dbToMask hwInitIntr (hwInitIntr b).intrRegBase i e ↔
      ∃ d, e = .send (!b) d ∧ (dbToMask d).getLsbD i = true := by
  constructor
  · rintro ⟨a, d, rfl, ha, hd⟩
    obtain rfl : b = !a := hwInitIntr_peer_eq_intr.mp ha
    exact ⟨d, by rw [Bool.not_not], hd⟩
  · rintro ⟨d, rfl, hd⟩
    exact ⟨!b, d, rfl, hwInitIntr_peer_eq_intr.mpr (Bool.not_not b).symm, hd⟩

theorem returns_hwInitIntr_iff {b : Bool} {e : Event} {o : Option (BitVec 32)} :
    Returns hwInitIntr (hwInitIntr b).intrRegBase i e o ↔
      e = .ackWrite b ∧ ∃ r, o = some r ∧ r.getLsbD i = true := by
  constructor
  · rintro ⟨a, r, rfl, ha, rfl, hr⟩
    rw [hwInitIntr_intr_inj.mp ha]
    exact ⟨rfl, r, rfl, hr⟩
  · rintro ⟨rfl, r, rfl, hr⟩
    exact ⟨b, r, rfl, rfl, rfl, hr⟩

/-- `DB_TO_MASK(doorbell)` as `1 << doorbell`, a value for the macro of `plx_hw.h`. -/
def sampleDbToMask (doorbell : BitVec 32) : BitVec 32 := 1#32 <<< doorbell.toNat

/-- No handler running, no doorbell pending, every doorbell masked. -/
def idleState : State := ⟨fun _ => ⟨0, 0xFFFF⟩, fun _ => none⟩

/-- The link side enables its interrupts; the virtual side rings doorbell 3 while the link side's
`plx_ack_interrupt` is between its read and its write; the link side acknowledges again. -/
def ringDuringAck : List Event :=
  [.enable true, .ackRead true, .send false 3, .ackWrite true, .ackRead true, .ackWrite true]

/-- Every doorbell a side rings, in any interleaving of the accesses of both sides, is returned
by a later `plx_ack_interrupt` of the other side, or is still pending, in the block the other
side acknowledges, when the run ends. -/
theorem doorbell_not_lost (h : run dbToMask hwInitIntr s evs = some (s', rets)) {k : Nat}
    {a : Bool} {d : BitVec 32} (hk : evs[k]? = some (.send a d))
    (hd : (dbToMask d).getLsbD i = true) :
    (s'.chip (hwInitIntr (!a)).intrRegBase).pending.getLsbD i = true ∨
      ∃ j, k < j ∧ evs[j]? = some (.ackWrite (!a)) ∧
        ∃ r, rets[j]? = some (some r) ∧ r.getLsbD i = true := by
  have hr : Rings dbToMask hwInitIntr (hwInitIntr (!a)).intrRegBase i (.send a d) :=
    rings_hwInitIntr_iff.mpr ⟨d, by rw [Bool.not_not], hd⟩
  rcases hr.pending_or_returned h hk with hp | ⟨j, hkj, e, o, he, ho, hret⟩
  · exact .inl hp
  · obtain ⟨rfl, r, rfl, hri⟩ := returns_hwInitIntr_iff.mp hret
    exact .inr ⟨j, hkj, he, r, ho, hri⟩

theorem doorbell_not_lost_ringDuringAck :
    ∃ s' rets, run sampleDbToMask hwInitIntr idleState ringDuringAck = some (s', rets) ∧
      ringDuringAck[2]? = some (.send false 3) ∧ (sampleDbToMask 3).getLsbD 3 = true ∧
      ((s'.chip (hwInitIntr (!false)).intrRegBase).pending.getLsbD 3 = true ∨
        ∃ j, 2 < j ∧ ringDuringAck[j]? = some (.ackWrite (!false)) ∧
          ∃ r, rets[j]? = some (some r) ∧ r.getLsbD 3 = true) :=
  ⟨_, _, rfl, rfl, by decide,
    @doorbell_not_lost sampleDbToMask idleState _ ringDuringAck _ 3 rfl 2 false 3 rfl (by decide)⟩

/-- The virtual side rings doorbell 3, the link side acknowledges it, and both do so again. -/
def ringTwice : List Event :=
  [.send false 3, .ackRead true, .ackWrite true, .send false 3, .ackRead true, .ackWrite true]

/-- Every doorbell that a side's `plx_ack_interrupt` returns, in any interleaving of the accesses
of both sides from a state where no acknowledgement runs, was rung by the other side before: after
the previous return of it by that side, and before the first return unless it was pending when
the run began. -/
theorem doorbell_returned_after_send (hidle : ∀ a, s.ack a = none)
    (h : run dbToMask hwInitIntr s evs = some (s', rets)) {j : Nat} {b : Bool} {r : BitVec 32}
    (hj : evs[j]? = some (.ackWrite b)) (hr : rets[j]? = some (some r))
    (hi : r.getLsbD i = true) :
    ((s.chip (hwInitIntr b).intrRegBase).pending.getLsbD i = false →
      ∃ k < j, ∃ d, evs[k]? = some (.send (!b) d) ∧ (dbToMask d).getLsbD i = true) ∧
    ∀ j' < j, ∀ r', evs[j']? = some (.ackWrite b) → rets[j']? = some (some r') →
      r'.getLsbD i = true →
      ∃ k, j' < k ∧ k < j ∧ ∃ d, evs[k]? = some (.send (!b) d) ∧ (dbToMask d).getLsbD i = true := by
  have hret : Returns hwInitIntr (hwInitIntr b).intrRegBase i (.ackWrite b) (some r) :=
    returns_hwInitIntr_iff.mpr ⟨rfl, r, rfl, hi⟩
  refine ⟨fun hp => ?_, fun j' hj' r' he' hr' hi' => ?_⟩
  · have hc : Clear hwInitIntr (hwInitIntr b).intrRegBase i s :=
      ⟨hp, fun a r' _ ha => by rw [hidle a] at ha; cases ha⟩
    obtain ⟨k, hk, e, he, hring⟩ := hc.rung_before h hj hr hret
    obtain ⟨d, rfl, hd⟩ := rings_hwInitIntr_iff.mp hring
    exact ⟨k, hk, d, he, hd⟩
  · have hu : ∀ a c, (hwInitIntr a).intrRegBase = (hwInitIntr b).intrRegBase →
        (hwInitIntr c).intrRegBase = (hwInitIntr b).intrRegBase → a = c :=
      fun a c ha hc => (hwInitIntr_intr_inj.mp ha).trans (hwInitIntr_intr_inj.mp hc).symm
    obtain ⟨k, hk1, hk2, e, he, hring⟩ := Returns.rung_between hu h hj' he' hr'
      (returns_hwInitIntr_iff.mpr ⟨rfl, r', rfl, hi'⟩) hj hr hret
    obtain ⟨d, rfl, hd⟩ := rings_hwInitIntr_iff.mp hring
    exact ⟨k, hk1, hk2, d, he, hd⟩

theorem doorbell_returned_after_send_ringTwice :
    (∀ a, idleState.ack a = none) ∧
      ∃ s' rets, run sampleDbToMask hwInitIntr idleState ringTwice = some (s', rets) ∧
        ringTwice[5]? = some (.ackWrite true) ∧ rets[5]? = some (some 8) ∧
        (8 : BitVec 32).getLsbD 3 = true ∧
        (((idleState.chip (hwInitIntr true).intrRegBase).pending.getLsbD 3 = false →
          ∃ k < 5, ∃ d, ringTwice[k]? = some (.send (!true) d) ∧
            (sampleDbToMask d).getLsbD 3 = true) ∧
        ∀ j' < 5, ∀ r', ringTwice[j']? = some (.ackWrite true) → rets[j']? = some (some r') →
          r'.getLsbD 3 = true →
          ∃ k, j' < k ∧ k < 5 ∧ ∃ d, ringTwice[k]? = some (.send (!true) d) ∧
            (sampleDbToMask d).getLsbD 3 = true) :=
  have hidle : ∀ a, idleState.ack a = none := fun _ => rfl
  ⟨hidle, _, _, rfl, rfl, rfl, by decide,
    @doorbell_returned_after_send sampleDbToMask idleState _ ringTwice _ 3 hidle rfl 5 true 8 rfl rfl
      (by decide)⟩

end HwInit

end PlxHw.Ntb
