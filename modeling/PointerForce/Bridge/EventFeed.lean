import PointerForce.Bridge.EventResponse
import PointerForce.Bridge.StreamClient

/-! One connection of a page to the events: the thread that runs `streamEvents` and the stream
callback of the response, which share the queue. -/

namespace PointerForce.Bridge.EventFeed

open Foundations Foundations.Runs EventResponse StreamClient

inductive Worker where
  | connecting
  | sending
  | loopHead
  | polling
  | delivering (events : List Json)
  | returned

inductive Poll where
  | timeout
  | received (buf : List Sent)
  -- `read` gives 0 or fails
  | closed
  -- POLLHUP, POLLERR or POLLNVAL without POLLIN
  | broken
  | failed

structure Feed where
  worker : Worker := .connecting
  leftover : List Sent := []
  -- `keepRunning`
  running : Bool := true
  state : EventStreamState := {}
  -- a call has returned 0
  ended : Bool := false

inductive Action where
  | connect (ok : Bool)
  | send (ok : Bool)
  | testRunning
  | poll (outcome : Poll)
  | deliver
  | call (maxLen : ℕ)
  -- the last reference to the callback is gone
  | destroy

variable (C : Codec)

def afterPoll (f : Feed) : Poll → Feed
  | .timeout => { f with worker := .loopHead }
  | .received buf =>
    let (passed, leftover) := passLines C [] (f.leftover ++ buf)
    { f with worker := .delivering (passed.map Prod.snd), leftover }
  | .closed | .broken | .failed => { f with worker := .returned }

def deliver (f : Feed) : List Json → Option Feed
  | [] => some { f with worker := .loopHead }
  | event :: events => (EventResponse.step f.state (.push event)).map fun state =>
    { f with worker := .delivering events, state }

def count (s : EventStreamState) (maxLen : ℕ) : ℕ := min s.chunk.length maxLen

def step (f : Feed) (a : Action) : Option Feed :=
  match a, f.worker with
  | .connect ok, .connecting => some { f with worker := if ok then .sending else .returned }
  | .send ok, .sending => some { f with worker := if ok then .loopHead else .returned }
  | .testRunning, .loopHead => some { f with worker := if f.running then .polling else .returned }
  | .poll outcome, .polling => some (afterPoll C f outcome)
  | .deliver, .delivering events => deliver f events
  | .call maxLen, _ =>
    if f.running = true ∧ f.ended = false then
      some { f with
        state := (f.state.popFront true).write (f.state.chunk.take maxLen),
        ended := decide (count f.state maxLen = 0) }
    else none
  | .destroy, _ => some { f with running := false }
  | _, _ => none

def Dead (f : Feed) : Prop := f.worker = .returned ∧ f.state.queue = []

section Steps

variable {C} {f g : Feed} {a : Action}

lemma chunk_ne_nil (s : EventStreamState) : s.chunk ≠ [] := by
  rw [EventStreamState.chunk]
  split
  · simp
  · decide

lemma count_eq_zero (s : EventStreamState) (maxLen : ℕ) : count s maxLen = 0 ↔ maxLen = 0 := by
  have := List.length_pos_of_ne_nil (chunk_ne_nil s)
  rw [count]
  omega

lemma step_call {maxLen : ℕ} (h : step C f (.call maxLen) = some g) :
    f.ended = false ∧ g.worker = f.worker ∧ g.state.queue = f.state.queue.tail ∧
      (g.ended = true ↔ maxLen = 0) := by
  obtain ⟨⟨-, hended⟩, h⟩ := Option.ite_none_right_eq_some.mp h
  obtain rfl := Option.some.inj h
  exact ⟨hended, rfl, rfl, decide_eq_true_iff.trans (count_eq_zero f.state maxLen)⟩

lemma afterPoll_ended (f : Feed) (outcome : Poll) : (afterPoll C f outcome).ended = f.ended := by
  cases outcome <;> rfl

lemma deliver_ended {events : List Json} (h : deliver f events = some g) : g.ended = f.ended := by
  cases events with
  | nil =>
    obtain rfl := Option.some.inj h
    rfl
  | cons event events =>
    obtain ⟨state, -, rfl⟩ := Option.map_eq_some_iff.mp h
    rfl

lemma step_ended (ha : ∀ maxLen, a ≠ .call maxLen) (h : step C f a = some g) :
    g.ended = f.ended := by
  rw [step.eq_def] at h
  split at h
  case h_4 outcome _ =>
    obtain rfl := Option.some.inj h
    exact afterPoll_ended f outcome
  case h_5 => exact deliver_ended h
  case h_6 maxLen => exact absurd rfl (ha maxLen)
  case h_8 => cases h
  all_goals
    obtain rfl := Option.some.inj h
    rfl

lemma dead_step (hf : Dead f) (h : step C f a = some g) : Dead g := by
  obtain ⟨hw, hq⟩ := hf
  cases a
  case call maxLen =>
    obtain ⟨-, hworker, hqueue, -⟩ := step_call h
    exact ⟨hworker.trans hw, by rw [hqueue, hq, List.tail_nil]⟩
  case destroy =>
    obtain rfl := Option.some.inj h
    exact ⟨hw, hq⟩
  all_goals
    simp only [step, hw] at h
    cases h

lemma ended_iff {as : List Action} (h : exec (step C) {} as = some f) :
    f.ended = true ↔ .call 0 ∈ as := by
  induction as using List.reverseRecOn generalizing f with
  | nil =>
    obtain rfl := Option.some.inj h
    simp
  | append_singleton as a ih =>
    obtain ⟨u, hu, hstep⟩ := exec_concat.mp h
    rw [List.mem_append, List.mem_singleton, ← ih hu]
    by_cases ha : ∃ maxLen, a = .call maxLen
    · obtain ⟨maxLen, rfl⟩ := ha
      obtain ⟨hopen, -, -, hended⟩ := step_call hstep
      rw [hended, hopen, Action.call.injEq]
      exact ⟨fun h => .inr h.symm, fun h => (h.resolve_left Bool.false_ne_true).symm⟩
    · rw [step_ended (fun maxLen h => ha ⟨maxLen, h⟩) hstep]
      exact ⟨.inl, fun h => h.resolve_right fun h => ha ⟨0, h.symm⟩⟩

end Steps

/-- The response ends exactly if the callback is given an empty buffer. Once the worker has
returned and the queue is empty nothing but keep-alives follows. -/
theorem dead_feed_ends_iff (as : List Action) (f : Feed) (hrun : exec (step C) {} as = some f)
    (hdead : Dead f) : (f.ended = true ↔ .call 0 ∈ as) ∧
      (∀ maxLen, count f.state maxLen = 0 ↔ maxLen = 0) ∧
      ∀ bs g, exec (step C) f bs = some g →
        Dead g ∧ (g.ended = true ↔ .call 0 ∈ as ++ bs) := by
  refine ⟨ended_iff hrun, count_eq_zero f.state, fun bs g hrest => ?_⟩
  refine ⟨exec_invariant (fun _ _ _ => dead_step) hdead hrest, ended_iff (C := C) ?_⟩
  exact exec_append.mpr ⟨f, hrun, hrest⟩

def daemonGone : List Action := [.connect true, .send true, .testRunning, .poll .closed]

theorem keep_alive_after_restart : ∃ f, exec (step (.ofTable [])) {} daemonGone = some f ∧
    (∀ maxLen, count f.state maxLen = 0 ↔ maxLen = 0) ∧
    ∀ g, exec (step (.ofTable [])) f [.call 4096, .call 4096] = some g → g.ended ≠ true := by
  obtain ⟨-, hcount, hrest⟩ := dead_feed_ends_iff (.ofTable []) daemonGone _ rfl ⟨rfl, rfl⟩
  refine ⟨_, rfl, hcount, fun g hg hended => ?_⟩
  have := (hrest _ g hg).2.mp hended
  simp [daemonGone] at this

theorem dead_feed_kept_open : ¬ ∀ (as : List Action) (f : Feed),
    exec (step (.ofTable [])) {} as = some f → Dead f → f.ended = false →
      ∀ maxLen, 0 < maxLen → count f.state maxLen = 0 := by
  intro hall
  have hzero := hall daemonGone _ rfl ⟨rfl, rfl⟩ rfl 4096 (by decide)
  exact absurd hzero (by decide)

end PointerForce.Bridge.EventFeed
