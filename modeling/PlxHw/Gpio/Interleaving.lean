import Mathlib.Data.List.Permutation
import Mathlib.Logic.Function.Basic
import Mathlib.Data.BitVec

/-!
# Read-modify-writes of `GPIO_REG` through several devices

The node-control functions of `plx_hw.c` change bits of the card's `GPIO_REG` by read-modify-write
sections, each under the `mmio_lock` of the `plx_device` they are called through: `_clear_bit` and
`_set_bit` (`plx_turn_rcv_mode`), `signal_bit` (`plx_card_reset`, `plx_card_press_power_button`:
a clear section, a sleep, a set section), `plx_set_SMB_id` and `plx_init_vca_g2_gpios`. Each node
of a card has its own `plx_device`, so its own `mmio_lock`, and all reach the card's one
`GPIO_REG`: `plx_init_vca_g2_gpios` programs it once for all three nodes.

A `Thread` runs the sections of one call through one device; a `State` holds `GPIO_REG`, the
threads and the holder of each lock. A step of a thread is one atomic action: `mutex_lock` when
the lock is free, `plx_mmio_read`, `plx_mmio_write`, `mutex_unlock` (`step`), and a schedule runs
the steps of the threads it names (`run`). Between the two sections of `signal_bit` the thread
sleeps holding no lock, so other threads may run; the sleep itself and the logging are not
modelled.

## Main definitions

* `GpioSection`, `GpioSection.write`, `serial`: the sections and their effect alone.
* `clearBit`, `setBit`, `signalBit`, `plxSetSMBId`, `plxInitVcaG2Gpios`.
* `Thread`, `State`, `step`, `run`, `runWrites`, `Serializable`.

## Main results

* `gpio_update_lost`: through two devices, two `_clear_bit` calls can end with the first bit set
  again, which no order of the two calls gives, and a `_clear_bit` can end a `signal_bit` pulse
  early.
* `LockHeld.step`: every lock is held by the thread inside a section of its device.
* `serializable_of_one_device`: through one device, every complete run leaves `GPIO_REG` as the
  sections run one at a time would, in the order the run wrote them (`runWrites`).

## References

* `src/node-drivers/base-driver/drivers/vca/plx87xx/plx_hw.c`, lines 960–1058, 1066–1123,
  1170–1259 and 1286–1307.
-/

namespace PlxHw.Gpio

/-- The GPIO constants of `plx_hw.h` that the sections read. -/
structure GpioConsts where
  /-- `PLX_SEL0_BIT | PLX_SEL1_BIT | PLX_SEL2_BIT`. -/
  selBits : BitVec 32
  /-- `PLX_CARD_RESET_BIT`. -/
  cardResetBit : BitVec 32
  /-- `PLX_MV_DEF_GPIO_VAL`. -/
  mvDefGpioVal : BitVec 32

/-- A critical section on `GPIO_REG` under a device's `mmio_lock`: `plx_mmio_read`, then a
`plx_mmio_write` of a value computed from what was read. -/
inductive GpioSection
  /-- `data &= ~bit`: `_clear_bit`, and the first section of `signal_bit`. -/
  | clear (bit : BitVec 32)
  /-- `data |= bit`: `_set_bit`, and the release of `signal_bit`. -/
  | set (bit : BitVec 32)
  /-- `data &= ~(PLX_SEL0_BIT | PLX_SEL1_BIT | PLX_SEL2_BIT); data += smb_id_bits`. -/
  | smbId (smbIdBits : BitVec 32)
  /-- The default value, written only when `PLX_CARD_RESET_BIT` reads clear. -/
  | initG2
  deriving DecidableEq, Repr

/-- The value a section writes after reading `data`, `none` when it writes nothing. -/
def GpioSection.write (K : GpioConsts) : GpioSection → BitVec 32 → Option (BitVec 32)
  | .clear bit, data => some (data &&& ~~~bit)
  | .set bit, data => some (data ||| bit)
  | .smbId smbIdBits, data => some ((data &&& ~~~K.selBits) + smbIdBits)
  | .initG2, data => if data &&& K.cardResetBit = 0 then some K.mvDefGpioVal else none

/-- `GPIO_REG` after a section runs on it alone. -/
def GpioSection.apply (K : GpioConsts) (sec : GpioSection) (data : BitVec 32) : BitVec 32 :=
  (sec.write K data).getD data

/-- `GPIO_REG` after sections run one after another, each alone. -/
def serial (K : GpioConsts) (secs : List GpioSection) (data : BitVec 32) : BitVec 32 :=
  secs.foldl (fun data sec => sec.apply K data) data

/-! ### The node-control functions -/

/-- `_clear_bit(xdev, bit, GPIO_REG)`, as `plx_turn_rcv_mode` calls it. -/
def clearBit (bit : BitVec 32) : List GpioSection := [.clear bit]

/-- `_set_bit(xdev, bit, GPIO_REG)`, as `plx_turn_rcv_mode` calls it. -/
def setBit (bit : BitVec 32) : List GpioSection := [.set bit]

/-- `signal_bit(xdev, compl, bit, GPIO_REG, ms, ...)`, as `plx_card_reset` and
`plx_card_press_power_button` call it: clear the bit, sleep `ms`, set it again. -/
def signalBit (bit : BitVec 32) : List GpioSection := [.clear bit, .set bit]

/-- `plx_set_SMB_id(xdev, id)` on a VV card, `smb_id_bits` being `ID_TO_PLX_SEL_BITS(id)`. -/
def plxSetSMBId (smbIdBits : BitVec 32) : List GpioSection := [.smbId smbIdBits]

/-- `plx_init_vca_g2_gpios(xdev)`. -/
def plxInitVcaG2Gpios : List GpioSection := [.initG2]

/-! ### Threads on several devices -/

/-- Where a thread is in its current section. -/
inductive Phase
  /-- Outside a section: before its `mutex_lock`, or after the `mutex_unlock` of the last. -/
  | idle
  /-- Holds `mmio_lock`, before `plx_mmio_read`. -/
  | locked
  /-- Holds `mmio_lock` and has read `data`. -/
  | read (data : BitVec 32)
  /-- Holds `mmio_lock` and has written. -/
  | written
  deriving DecidableEq, Repr

/-- A thread calling node-control functions through one `plx_device`. -/
structure Thread where
  /-- The device, whose `mmio_lock` guards the thread's sections. -/
  dev : Nat
  /-- The sections left, the current one first. -/
  prog : List GpioSection
  phase : Phase
  deriving DecidableEq, Repr

/-- The card's `GPIO_REG`, the threads, and the holder of each device's `mmio_lock`. -/
structure State where
  gpioReg : BitVec 32
  threads : List Thread
  holder : Nat → Option Nat

/-- The threads `(dev, prog)` before any of them starts, every lock free. -/
def State.init (gpioReg : BitVec 32) (progs : List (Nat × List GpioSection)) : State :=
  ⟨gpioReg, progs.map fun p => ⟨p.1, p.2, .idle⟩, fun _ => none⟩

/-- The next action of thread `t`, `none` when it cannot move: `mutex_lock` when its device's lock
is free, `plx_mmio_read`, `plx_mmio_write`, `mutex_unlock`. Each is atomic. -/
def step (K : GpioConsts) (s : State) (t : Nat) : Option State :=
  match s.threads[t]? with
  | none => none
  | some th =>
    match th.phase, th.prog with
    | .idle, _ :: _ =>
      if s.holder th.dev = none then
        some { s with
          threads := s.threads.set t { th with phase := .locked }
          holder := Function.update s.holder th.dev (some t) }
      else none
    | .locked, _ => some { s with threads := s.threads.set t { th with phase := .read s.gpioReg } }
    | .read data, sec :: _ =>
      some { s with
        gpioReg := (sec.write K data).getD s.gpioReg
        threads := s.threads.set t { th with phase := .written } }
    | .written, _ :: rest =>
      some { s with
        threads := s.threads.set t { th with phase := .idle, prog := rest }
        holder := Function.update s.holder th.dev none }
    | _, _ => none

/-- The actions of the threads a schedule names, in order; `none` if one cannot move. -/
def run (K : GpioConsts) (s : State) : List Nat → Option State
  | [] => some s
  | t :: ts => (step K s t).bind fun s' => run K s' ts

/-- The section whose `plx_mmio_write` is the thread's next action, if that action is one. -/
def Thread.writing (th : Thread) : Option GpioSection :=
  match th.phase with
  | .read _ => th.prog.head?
  | _ => none

/-- The sections whose `plx_mmio_write` a schedule runs, in the order it runs them. -/
def runWrites (K : GpioConsts) (s : State) : List Nat → List GpioSection
  | [] => []
  | t :: ts =>
    match step K s t with
    | none => []
    | some s' => (s.threads[t]?.bind Thread.writing).toList ++ runWrites K s' ts

/-- Every thread has run all its sections. -/
def State.Complete (s : State) : Prop := ∀ th ∈ s.threads, th.prog = [] ∧ th.phase = .idle

/-- Every complete run from `s0` leaves in `GPIO_REG` the value of the threads' sections run one
after another, each alone, in some order. -/
def Serializable (K : GpioConsts) (s0 : State) : Prop :=
  ∀ sched s, run K s0 sched = some s → s.Complete →
    ∃ secs, secs.Perm (s0.threads.flatMap Thread.prog) ∧ s.gpioReg = serial K secs s0.gpioReg

/-! ### Lost updates across devices -/

private theorem and_not_and_self (x b : BitVec 32) : x &&& ~~~b &&& b = 0#32 := by
  apply BitVec.eq_of_getLsbD_eq
  intro i
  simp

/-- Two threads on two devices of a card, whose locks are distinct: a read-modify-write of one
can overwrite the other's. Two `_clear_bit` calls end with the first bit set again, which no
order of the two calls gives; and while a `signal_bit` pulse holds its bit clear, a
`_clear_bit` on another device sets it again. -/
theorem gpio_update_lost (K : GpioConsts) {d0 d1 : Nat} (hd : d0 ≠ d1) {b0 b1 v : BitVec 32}
    (hb : v &&& b0 &&& ~~~b1 ≠ 0) :
    ¬ Serializable K (.init v [(d0, clearBit b0), (d1, clearBit b1)]) ∧
    ∃ sched s, run K (.init v [(d0, signalBit b0), (d1, clearBit b1)]) sched = some s ∧
      s.threads[0]? = some ⟨d0, [.set b0], .idle⟩ ∧ s.gpioReg &&& b0 ≠ 0 := by
  have hb' : v &&& ~~~b1 &&& b0 ≠ 0 := by
    rwa [BitVec.and_assoc, BitVec.and_comm (~~~b1), ← BitVec.and_assoc]
  constructor
  · intro hser
    obtain ⟨secs, hperm, hval⟩ := hser [0, 1, 0, 1, 0, 1, 0, 1] _
      (by simp only [run, step, State.init, clearBit, List.map_cons, List.map_nil,
        List.getElem?_cons_zero, List.getElem?_cons_succ, List.set_cons_zero, List.set_cons_succ,
        ↓reduceIte, Option.bind_some, Option.some_bind, Function.update_noteq hd,
        Function.update_noteq (Ne.symm hd)]; rfl) (by simp [State.Complete])
    have hperm' : [GpioSection.clear b0, .clear b1].Perm secs := by
      simpa [State.init, clearBit] using hperm.symm
    rw [serial, ← hperm'.foldl_eq' (fun x hx y hy z => ?_)] at hval
    · apply hb'
      have := congrArg (· &&& b0) hval
      simp only [State.init, serial, GpioSection.apply, GpioSection.write, List.foldl_cons,
        List.foldl_nil, Option.getD_some] at this
      rw [this, BitVec.and_assoc, BitVec.and_comm (~~~b1), ← BitVec.and_assoc, and_not_and_self,
        BitVec.zero_and]
      rfl
    · simp only [List.mem_cons, List.mem_singleton, List.not_mem_nil, or_false] at hx hy
      rcases hx with rfl | rfl <;> rcases hy with rfl | rfl <;>
        simp only [GpioSection.apply, GpioSection.write, Option.getD_some] <;> ac_rfl
  · refine ⟨[1, 0, 1, 0, 0, 0, 1], ?_⟩
    simpa only [run, step, State.init, signalBit, clearBit, List.map_cons, List.map_nil,
      List.getElem?_cons_zero, List.getElem?_cons_succ, List.set_cons_zero, List.set_cons_succ,
      ↓reduceIte, Option.bind_some, Option.some_bind, Function.update_noteq hd,
      Function.update_noteq (Ne.symm hd), GpioSection.write, Option.getD_some,
      Function.update_idem, Option.some.injEq, exists_eq_left', true_and] using hb'

theorem gpio_update_lost_twoNodes :
    (0 : Nat) ≠ 1 ∧ 3#32 &&& 1#32 &&& ~~~2#32 ≠ 0 ∧
    (¬ Serializable ⟨0, 0, 0⟩ (.init 3#32 [(0, clearBit 1#32), (1, clearBit 2#32)]) ∧
      ∃ sched s, run ⟨0, 0, 0⟩ (.init 3#32 [(0, signalBit 1#32), (1, clearBit 2#32)]) sched = some s ∧
        s.threads[0]? = some ⟨0, [.set 1#32], .idle⟩ ∧ s.gpioReg &&& 1#32 ≠ 0) :=
  ⟨by decide, by decide, gpio_update_lost ⟨0, 0, 0⟩ (by decide) (by decide)⟩

/-! ### Each lock serializes its device's sections -/

/-- What one step of thread `t` does (`step`, read backwards). -/
theorem step_cases {K : GpioConsts} {s s' : State} {t : Nat} (h : step K s t = some s') :
    ∃ th, s.threads[t]? = some th ∧
      ((th.phase = .idle ∧ s.holder th.dev = none ∧
          s' = { s with threads := s.threads.set t { th with phase := .locked },
                        holder := Function.update s.holder th.dev (some t) }) ∨
        (th.phase = .locked ∧
          s' = { s with threads := s.threads.set t { th with phase := .read s.gpioReg } }) ∨
        (∃ data sec rest, th.phase = .read data ∧ th.prog = sec :: rest ∧
          s' = { s with gpioReg := (sec.write K data).getD s.gpioReg,
                        threads := s.threads.set t { th with phase := .written } }) ∨
        (∃ sec rest, th.phase = .written ∧ th.prog = sec :: rest ∧
          s' = { s with threads := s.threads.set t { th with phase := .idle, prog := rest },
                        holder := Function.update s.holder th.dev none })) := by
  unfold step at h
  split at h
  · cases h
  · rename_i th hth
    refine ⟨th, hth, ?_⟩
    split at h
    · split at h
      · exact .inl ⟨‹_›, ‹_›, (Option.some.inj h).symm⟩
      · cases h
    · exact .inr (.inl ⟨‹_›, (Option.some.inj h).symm⟩)
    · exact .inr (.inr (.inl ⟨_, _, _, ‹_›, ‹_›, (Option.some.inj h).symm⟩))
    · exact .inr (.inr (.inr ⟨_, _, ‹_›, ‹_›, (Option.some.inj h).symm⟩))
    · cases h

/-- A thread inside a section holds its device's lock. -/
def LockHeld (s : State) : Prop :=
  ∀ t th, s.threads[t]? = some th → th.phase ≠ .idle → s.holder th.dev = some t

section Lists

variable {l : List Thread} {t : Nat} {th : Thread}

private theorem getElem?_set_of_getElem? (h : l[t]? = some th) (th' : Thread) :
    (l.set t th')[t]? = some th' := by
  rw [List.getElem?_set_self', h]
  rfl

private theorem flatMap_set (h : l[t]? = some th) (th' : Thread) (f : Thread → List GpioSection) :
    ((l.set t th').flatMap f ++ f th).Perm (l.flatMap f ++ f th') := by
  induction l generalizing t with
  | nil => simp at h
  | cons x l ih =>
    cases t with
    | zero =>
      simp only [List.getElem?_cons_zero, Option.some.injEq] at h
      subst h
      rw [List.perm_iff_count]
      intro a
      simp only [List.set_cons_zero, List.flatMap_cons, List.count_append]
      omega
    | succ t =>
      simp only [List.getElem?_cons_succ] at h
      simpa only [List.set_cons_succ, List.flatMap_cons, List.append_assoc] using
        (ih h).append_left (f x)

end Lists

/-- Every lock is held by the thread inside a section of its device, whatever the devices. -/
theorem LockHeld.step {K : GpioConsts} {s s' : State} {t : Nat} (hs : LockHeld s)
    (h : step K s t = some s') : LockHeld s' := by
  obtain ⟨th, hth, hcase⟩ := step_cases h
  have hheld := hs t th hth
  intro t' th' ht' hne
  by_cases htt : t = t'
  · subst htt
    rcases hcase with ⟨hp, hfree, rfl⟩ | ⟨hp, rfl⟩ | ⟨data, sec, rest, hp, -, rfl⟩ |
        ⟨sec, rest, hp, -, rfl⟩ <;>
      rw [getElem?_set_of_getElem? hth, Option.some.injEq] at ht' <;> subst ht'
    · simp
    · exact hheld (by simp [hp])
    · exact hheld (by simp [hp])
    · simp at hne
  · rcases hcase with ⟨hp, hfree, rfl⟩ | ⟨hp, rfl⟩ | ⟨data, sec, rest, hp, -, rfl⟩ |
        ⟨sec, rest, hp, -, rfl⟩ <;>
      rw [List.getElem?_set_ne htt] at ht' <;> have hother := hs t' th' ht' hne
    · refine (Function.update_noteq (fun hdev => ?_) _ _).trans hother
      rw [hdev, hfree] at hother
      cases hother
    · exact hother
    · exact hother
    · refine (Function.update_noteq (fun hdev => ?_) _ _).trans hother
      rw [hdev, hheld (by simp [hp])] at hother
      exact htt (Option.some.inj hother)

/-- The sections of a thread that have not taken effect yet: a thread that has written is done
with its current one. -/
def Thread.pending (th : Thread) : List GpioSection :=
  match th.phase with
  | .written => th.prog.tail
  | _ => th.prog

/-- The invariant of a run whose threads all use the device `d`, from `GPIO_REG = v`, with the
sections `secs0` in all, after the writes `log`: those sections, in the order they wrote, give
`GPIO_REG`, and with those still pending they are `secs0`; a thread that has read holds the
value still in `GPIO_REG`. -/
structure SerialInv (K : GpioConsts) (d : Nat) (v : BitVec 32) (secs0 log : List GpioSection)
    (s : State) : Prop where
  dev : ∀ th ∈ s.threads, th.dev = d
  lockHeld : LockHeld s
  gpio : s.gpioReg = serial K log v
  perm : (log ++ s.threads.flatMap Thread.pending).Perm secs0
  read : ∀ (t : Nat) (th : Thread) (data : BitVec 32), s.threads[t]? = some th →
    th.phase = .read data → data = s.gpioReg

section OneDevice

variable {K : GpioConsts} {d : Nat} {v : BitVec 32} {secs0 log : List GpioSection}

/-- On one device, two threads inside a section are the same thread. -/
private theorem SerialInv.eq_of_busy {s : State} (hs : SerialInv K d v secs0 log s) {t t' : Nat}
    {th th' : Thread} (ht : s.threads[t]? = some th) (hne : th.phase ≠ .idle)
    (ht' : s.threads[t']? = some th') (hne' : th'.phase ≠ .idle) : t = t' := by
  have h := hs.lockHeld t th ht hne
  have h' := hs.lockHeld t' th' ht' hne'
  rw [hs.dev th (List.getElem?_mem ht)] at h
  rw [hs.dev th' (List.getElem?_mem ht'), h] at h'
  exact Option.some.inj h'

/-- A step that changes one thread and leaves its pending sections keeps them pending. -/
private theorem log_set {s : State} {t : Nat} {th th' : Thread}
    (hth : s.threads[t]? = some th) (hpend : th'.pending = th.pending)
    (hperm : (log ++ s.threads.flatMap Thread.pending).Perm secs0) :
    (log ++ (s.threads.set t th').flatMap Thread.pending).Perm secs0 := by
  have h := flatMap_set hth th' Thread.pending
  rw [hpend, List.perm_append_right_iff] at h
  exact (h.append_left log).trans hperm

/-- Each step keeps the invariant, a `plx_mmio_write` adding its section to the log. -/
theorem SerialInv.step {s s' : State} {t : Nat} (hs : SerialInv K d v secs0 log s)
    (h : step K s t = some s') :
    SerialInv K d v secs0 (log ++ (s.threads[t]?.bind Thread.writing).toList) s' := by
  have hlock := hs.lockHeld.step h
  obtain ⟨th, hth, hcase⟩ := step_cases h
  rw [hth, Option.some_bind]
  have hdev (th' : Thread) (hd' : th'.dev = th.dev) : ∀ x ∈ s.threads.set t th', x.dev = d := by
    intro x hx
    rcases List.mem_or_eq_of_mem_set hx with hx | rfl
    · exact hs.dev x hx
    · rw [hd']; exact hs.dev th (List.getElem?_mem hth)
  have hread (th' : Thread) (hp' : ∀ data, th'.phase ≠ .read data) (t' : Nat) (x : Thread)
      (data : BitVec 32) (hx : (s.threads.set t th')[t']? = some x) (hp : x.phase = .read data) :
      data = s.gpioReg := by
    by_cases htt : t = t'
    · subst htt
      rw [getElem?_set_of_getElem? hth, Option.some.injEq] at hx
      exact absurd (hx ▸ hp) (hp' data)
    · rw [List.getElem?_set_ne htt] at hx
      exact hs.read t' x data hx hp
  rcases hcase with ⟨hp, hfree, rfl⟩ | ⟨hp, rfl⟩ | ⟨data, sec, rest, hp, hprog, rfl⟩ |
      ⟨sec, rest, hp, hprog, rfl⟩
  · simp only [Thread.writing, hp, Option.toList_none, List.append_nil]
    exact ⟨hdev _ rfl, hlock, hs.gpio, log_set hth (by simp [Thread.pending, hp]) hs.perm,
      hread _ (by simp)⟩
  · simp only [Thread.writing, hp, Option.toList_none, List.append_nil]
    refine ⟨hdev _ rfl, hlock, hs.gpio, log_set hth (by simp [Thread.pending, hp]) hs.perm, ?_⟩
    intro t' x data hx hpx
    by_cases htt : t = t'
    · subst htt
      rw [getElem?_set_of_getElem? hth, Option.some.injEq] at hx
      subst hx
      simpa using hpx.symm
    · rw [List.getElem?_set_ne htt] at hx
      exact hs.read t' x data hx hpx
  · have hdata := hs.read t th data hth hp
    rw [show th.writing = some sec by simp [Thread.writing, hp, hprog], Option.toList_some]
    refine ⟨hdev _ rfl, hlock, ?_, ?_, ?_⟩
    · rw [serial, List.foldl_append, List.foldl_cons, List.foldl_nil]
      change _ = GpioSection.apply K sec (serial K log v)
      rw [← hs.gpio, hdata]
      rfl
    · have h := flatMap_set hth { th with phase := .written } Thread.pending
      have hperm := hs.perm
      simp only [Thread.pending, hp, hprog, List.tail_cons] at h
      rw [List.perm_iff_count] at h hperm ⊢
      intro a
      have h1 := h a
      have h2 := hperm a
      simp only [List.count_append, List.count_cons, List.count_nil, hprog] at h1 h2 ⊢
      omega
    · intro t' x data' hx hpx
      by_cases htt : t = t'
      · subst htt
        rw [getElem?_set_of_getElem? hth, Option.some.injEq] at hx
        subst hx
        cases hpx
      · rw [List.getElem?_set_ne htt] at hx
        exact absurd (hs.eq_of_busy hth (by simp [hp]) hx (by simp [hpx])) htt
  · simp only [Thread.writing, hp, Option.toList_none, List.append_nil]
    exact ⟨hdev _ rfl, hlock, hs.gpio,
      log_set hth (by simp [Thread.pending, hp, hprog]) hs.perm, hread _ (by simp)⟩

/-- A run keeps the invariant, its writes added to the log in the order it runs them. -/
theorem SerialInv.run {s s' : State} (hs : SerialInv K d v secs0 log s) {sched : List Nat}
    (h : run K s sched = some s') : SerialInv K d v secs0 (log ++ runWrites K s sched) s' := by
  induction sched generalizing s log with
  | nil => simpa [runWrites] using Option.some.inj h ▸ hs
  | cons t ts ih =>
    obtain ⟨s1, h1, h2⟩ := Option.bind_eq_some.mp h
    simpa only [runWrites, h1, List.append_assoc] using ih (hs.step h1) h2

theorem SerialInv.init (progs : List (Nat × List GpioSection)) (hd : ∀ p ∈ progs, p.1 = d) :
    SerialInv K d v ((State.init v progs).threads.flatMap Thread.prog) [] (.init v progs) where
  dev th hth := by
    obtain ⟨p, hp, rfl⟩ := List.mem_map.mp hth
    exact hd p hp
  lockHeld t th ht hne := by
    obtain ⟨p, -, rfl⟩ := List.mem_map.mp (List.getElem?_mem ht)
    exact absurd rfl hne
  gpio := rfl
  perm := by simp only [State.init, List.flatMap_map, Thread.pending, List.nil_append]; rfl
  read t th data ht hp := by
    obtain ⟨p, -, rfl⟩ := List.mem_map.mp (List.getElem?_mem ht)
    cases hp

end OneDevice

/-- A complete run of threads on one device wrote every section once, and `GPIO_REG` is their
serial run in the order it wrote them. -/
theorem serial_runWrites_of_complete {K : GpioConsts} {v : BitVec 32}
    {progs : List (Nat × List GpioSection)} {d : Nat} (hd : ∀ p ∈ progs, p.1 = d)
    {sched : List Nat} {s : State} (hrun : run K (.init v progs) sched = some s)
    (hdone : s.Complete) :
    (runWrites K (.init v progs) sched).Perm ((State.init v progs).threads.flatMap Thread.prog) ∧
      s.gpioReg = serial K (runWrites K (.init v progs) sched) v := by
  have hs := (SerialInv.init progs hd).run hrun
  have hpend : s.threads.flatMap Thread.pending = [] := by
    refine List.flatMap_eq_nil_iff.mpr fun th hth => ?_
    simp [Thread.pending, (hdone th hth).1, (hdone th hth).2]
  have hperm := hs.perm
  rw [hpend, List.append_nil, List.nil_append] at hperm
  exact ⟨hperm, hs.gpio⟩

/-- Sections through one device serialize: when every thread uses the same `plx_device`, so the
same `mmio_lock`, every complete run leaves in `GPIO_REG` the value of all the threads'
sections run one after another, each alone, in the order the run wrote them. -/
theorem serializable_of_one_device (K : GpioConsts) (v : BitVec 32)
    (progs : List (Nat × List GpioSection)) {d : Nat} (hd : ∀ p ∈ progs, p.1 = d) :
    Serializable K (.init v progs) ∧
    ∀ sched s, run K (.init v progs) sched = some s → s.Complete →
      (runWrites K (.init v progs) sched).Perm ((State.init v progs).threads.flatMap Thread.prog) ∧
      s.gpioReg = serial K (runWrites K (.init v progs) sched) v :=
  ⟨fun _ _ hrun hdone => ⟨_, serial_runWrites_of_complete hd hrun hdone⟩,
    fun _ _ => serial_runWrites_of_complete hd⟩

theorem serializable_of_one_device_node0 :
    (∀ p ∈ [(0, signalBit 1#32), (0, clearBit 2#32)], p.1 = 0) ∧
    (Serializable ⟨0, 0, 0⟩ (.init 3#32 [(0, signalBit 1#32), (0, clearBit 2#32)]) ∧
    ∀ sched s, run ⟨0, 0, 0⟩ (.init 3#32 [(0, signalBit 1#32), (0, clearBit 2#32)]) sched = some s →
      s.Complete →
      (runWrites ⟨0, 0, 0⟩ (.init 3#32 [(0, signalBit 1#32), (0, clearBit 2#32)]) sched).Perm
        ((State.init 3#32 [(0, signalBit 1#32), (0, clearBit 2#32)]).threads.flatMap Thread.prog) ∧
      s.gpioReg = serial ⟨0, 0, 0⟩
        (runWrites ⟨0, 0, 0⟩ (.init 3#32 [(0, signalBit 1#32), (0, clearBit 2#32)]) sched) 3#32) :=
  have hd : ∀ p ∈ [(0, signalBit 1#32), (0, clearBit 2#32)], p.1 = 0 := by decide
  ⟨hd, serializable_of_one_device ⟨0, 0, 0⟩ 3#32 _ hd⟩

end PlxHw.Gpio
