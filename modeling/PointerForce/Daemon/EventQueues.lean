import PointerForce.Daemon.EventLoop
import PointerForce.Foundations.Wakeups

/-! The queue between the readers and the multiplexer, at the level of its mutex and its condition
variable. -/

namespace PointerForce.Daemon.EventQueues

open Foundations Foundations.Runs Foundations.Monitors Foundations.Linearizability Mapper

structure EventQueue where
  q : List InputEvent := []
  shutdown : Bool := false
  deriving DecidableEq, Repr

inductive Op where
  | push (ev : InputEvent)
  | pop
  | shutdown
  deriving DecidableEq, Repr

def push (s : EventQueue) (ev : InputEvent) : EventQueue := { s with q := s.q ++ [ev] }

def pop (s : EventQueue) : EventQueue × Option InputEvent :=
  match s.q with
  | [] => (s, none)
  | ev :: q => ({ s with q }, some ev)

def act (s : EventQueue) : Op → EventQueue × Option InputEvent
  | .push ev => (push s ev, none)
  | .pop => pop s
  | .shutdown => ({ s with shutdown := true }, none)

def ready (s : EventQueue) : Op → Bool
  | .pop => !s.q.isEmpty || s.shutdown
  | .push _ | .shutdown => true

def signal : Op → Signal
  | .push _ => .one
  | .pop => .silent
  | .shutdown => .all

def monitor : Monitor EventQueue Op (Option InputEvent) := ⟨ready, act, signal, fun _ => true⟩

def pushedEvent : Op → Option InputEvent
  | .push ev => some ev
  | .pop | .shutdown => none

def pushed (order : List (Call Op (Option InputEvent))) : List InputEvent :=
  order.filterMap fun c => pushedEvent c.op

def popped (order : List (Call Op (Option InputEvent))) : List InputEvent := order.filterMap Call.ret

lemma act_balance (s : EventQueue) (op : Op) :
    (act s op).2.toList ++ (act s op).1.q = s.q ++ (pushedEvent op).toList := by
  cases op with
  | push ev => rfl
  | shutdown => simp [act, pushedEvent]
  | pop =>
    simp only [act, pop, pushedEvent]
    split <;> simp_all

lemma popped_pushed {s t : EventQueue} {order : List (Call Op (Option InputEvent))}
    (h : Legal act s order t) : popped order ++ t.q = s.q ++ pushed order := by
  induction order generalizing s with
  | nil =>
    rw [legal_nil.mp h]
    simp [popped, pushed]
  | cons c order ih =>
    obtain ⟨hret, hrest⟩ := legal_cons.mp h
    have hb := act_balance s c.op
    rw [hret] at hb
    calc popped (c :: order) ++ t.q = c.ret.toList ++ (popped order ++ t.q) := by
          cases hr : c.ret <;> simp [popped, hr]
      _ = c.ret.toList ++ (act s c.op).1.q ++ pushed order := by rw [ih hrest, List.append_assoc]
      _ = s.q ++ pushed (c :: order) := by
          rw [hb]
          cases hp : pushedEvent c.op <;> simp [pushed, hp]

/-- For every interleaving of any number of readers and poppers, their waits, timeouts and wake-ups,
the calls have a sequential order in which the queue is first-in first-out. -/
theorem queue_linearizable (as : List (Action Op)) (w : World EventQueue Op (Option InputEvent))
    (hrun : exec (step monitor) { state := {} } as = some w) :
    ∃ order, Linearization act {} w.history order w.state ∧
      popped order ++ w.state.q = pushed order := by
  obtain ⟨order, hl⟩ := linearizable hrun
  exact ⟨order, hl, popped_pushed hl.legal⟩

def overlappingPop : List (Action Op) :=
  [.invoke 0 .pop, .invoke 1 (.push ⟨"macro_pad", "/dev/input/event3", 30, 1, 7⟩),
    .move 1 .acquire, .move 1 .test, .commit 1, .move 1 .release,
    .move 0 .acquire, .move 0 .test, .commit 0]

theorem overlapping_pop_ordered : ∃ w, exec (step monitor) { state := {} } overlappingPop = some w ∧
    ∃ order, Linearization act {} w.history order w.state ∧
      popped order ++ w.state.q = pushed order := by
  obtain ⟨w, hw⟩ : ∃ w, exec (step monitor) { state := {} } overlappingPop = some w := ⟨_, rfl⟩
  exact ⟨w, hw, queue_linearizable overlappingPop w hw⟩

lemma length_act (s : EventQueue) (op : Op) : (act s op).1.q.length + (act s op).2.toList.length =
    s.q.length + (pushedEvent op).toList.length := by
  have h := congrArg List.length (act_balance s op)
  simp only [List.length_append] at h
  omega

lemma monitor_counted : Counted monitor fun s => s.q.length := by
  refine ⟨fun s op hr => ?_, fun s op => ?_, fun s r op hr => ?_⟩
  · cases op <;> simp_all [monitor, ready]
  · have hl := length_act s op
    cases op <;> simp [monitor, signal, pushedEvent] at hl ⊢ <;> omega
  · cases op with
    | pop =>
      simp only [monitor, act, pop]
      split <;> simp_all
    | _ => simp [monitor, ready] at hr

lemma monitor_closing : Closing monitor fun s => s.shutdown = true := by
  refine ⟨fun s op hc => ?_, fun s op hc => ?_, fun s op hc hn => ?_, fun s op hs => ?_⟩
  · cases op <;> simp [monitor, ready, hc]
  · cases op with
    | pop =>
      simp only [monitor, act, pop]
      split <;> exact hc
    | push ev => exact hc
    | shutdown => rfl
  · cases op with
    | pop =>
      simp only [monitor, act, pop] at hn
      split at hn <;> exact absurd hn hc
    | push ev => exact absurd hn hc
    | shutdown => rfl
  · cases op with
    | shutdown => rfl
    | _ => cases hs

theorem pops_settle (as bs : List (Action Op)) (w w' : World EventQueue Op (Option InputEvent))
    (hrun : exec (step monitor) { state := {} } as = some w) (hown : ∀ a ∈ bs, a.own)
    (hrest : exec (step monitor) w bs = some w') : bs.length ≤ w.fuel ∧ (Stuck monitor w' →
      w'.atRest ∧ ∀ id op, w'.phase id = .waiting op →
        op = .pop ∧ w'.state.q = [] ∧ w'.state.shutdown = false) := by
  obtain ⟨hlen, hstuck⟩ := settles monitor_counted monitor_closing hrun hown hrest
  refine ⟨hlen, fun hs => ⟨(hstuck hs).1, fun id op hp => ?_⟩⟩
  obtain ⟨⟨r, hr⟩, hlevel, hopen⟩ := (hstuck hs).2 id op hp
  refine ⟨?_, List.eq_nil_of_length_eq_zero hlevel, Bool.eq_false_iff.mpr hopen⟩
  cases op with
  | pop => rfl
  | _ => cases hr

def wokenPop : List (Action Op) :=
  [.invoke 0 .pop, .move 0 .acquire, .move 0 .test, .move 0 .wait,
    .invoke 1 .pop, .move 1 .acquire, .move 1 .test, .move 1 .wait,
    .invoke 2 (.push ⟨"macro_pad", "/dev/input/event3", 30, 1, 7⟩)]

def wokenPopSteps : List (Action Op) :=
  [.move 2 .acquire, .move 2 .test, .commit 2, .move 2 .release, .notify 2 (some 1), .respond 2,
    .move 1 .acquire, .move 1 .test, .commit 1, .move 1 .release, .respond 1]

theorem woken_pop_settles : ∃ w w', exec (step monitor) { state := {} } wokenPop = some w ∧
    exec (step monitor) w wokenPopSteps = some w' ∧ wokenPopSteps.length ≤ w.fuel ∧
    (Stuck monitor w' → w'.state.q = []) := by
  obtain ⟨w, hw⟩ : ∃ w, exec (step monitor) { state := {} } wokenPop = some w := ⟨_, rfl⟩
  obtain ⟨w', hw', hwaits⟩ : ∃ w', exec (step monitor) w wokenPopSteps = some w' ∧
      w'.phase 0 = .waiting .pop := by
    obtain rfl := Option.some.inj hw
    exact ⟨_, rfl, rfl⟩
  obtain ⟨hlen, hstuck⟩ := pops_settle wokenPop wokenPopSteps w w' hw (by decide) hw'
  exact ⟨w, w', hw, hw', hlen, fun hs => ((hstuck hs).2 0 .pop hwaits).2.1⟩

theorem shutdown_unblocks (as bs : List (Action Op)) (w w' : World EventQueue Op (Option InputEvent))
    (id : ℕ) (hrun : exec (step monitor) { state := {} } as = some w)
    (hid : w.phase id = .leaving none .all)
    (hrest : exec (step monitor) w (.notify id none :: bs) = some w') :
    w'.state.shutdown = true ∧ ¬ w'.anyWaiting := closed_for_good monitor_closing hrun hid hrest

def shutdownOverPop : List (Action Op) :=
  [.invoke 0 .pop, .move 0 .acquire, .move 0 .test, .move 0 .wait,
    .invoke 1 .shutdown, .move 1 .acquire, .move 1 .test, .commit 1, .move 1 .release]

theorem waiting_pop_unblocked : ∃ w w', exec (step monitor) { state := {} } shutdownOverPop = some w ∧
    w.anyWaiting ∧ exec (step monitor) w [.notify 1 none, .move 0 .acquire] = some w' ∧
    w'.state.shutdown = true ∧ ¬ w'.anyWaiting := by
  obtain ⟨w, hw⟩ : ∃ w, exec (step monitor) { state := {} } shutdownOverPop = some w := ⟨_, rfl⟩
  obtain ⟨hwaits, hleaving, w', hw'⟩ : w.anyWaiting ∧ w.phase 1 = .leaving none .all ∧
      ∃ w', exec (step monitor) w [.notify 1 none, .move 0 .acquire] = some w' := by
    obtain rfl := Option.some.inj hw
    exact ⟨⟨0, rfl⟩, rfl, _, rfl⟩
  exact ⟨w, w', hw, hwaits, hw', shutdown_unblocks shutdownOverPop [.move 0 .acquire] w w' 1 hw
    hleaving hw'⟩

end PointerForce.Daemon.EventQueues
