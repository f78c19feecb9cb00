import PointerForce.Bridge.EventResponse
import PointerForce.Foundations.Wakeups

/-! The worker that queues the lines of a response and the callback that sends them, at the level of
the mutex and the condition variable that they share. -/

namespace PointerForce.Bridge.EventStreamThreads

open Foundations Foundations.Monitors Foundations.Linearizability EventLines EventResponse

/-- The calls of the lines that `formatEventLine` has made, and of buffers with room for a byte. An event
on which it raises, and a buffer without room, are left out. -/
inductive Op where
  | push (event : Json) (line : String) (formatted : formatEventLine event = .ok line)
  | call (maxLen : ℕ) (pos : 0 < maxLen)

def Op.action : Op → EventResponse.Action
  | .push event _ _ => .push event
  | .call maxLen _ => .call maxLen

def act (s : EventStreamState) : Op → EventStreamState × Bytes
  | .push _ line _ => ((if s.queue.length > 500 then s.popFront false else s).pushBack line, [])
  | .call maxLen _ => ((s.popFront true).write (s.chunk.take maxLen), s.chunk.take maxLen)

def ready (s : EventStreamState) : Op → Bool
  | .push _ _ _ => true
  | .call _ _ => !s.queue.isEmpty

def signal : Op → Signal
  | .push _ _ _ => .one
  | .call _ _ => .silent

/-- The callback waits once, without a predicate. -/
def monitor : Monitor EventStreamState Op Bytes := ⟨ready, act, signal, fun _ => false⟩

lemma step_action (s : EventStreamState) (op : Op) :
    EventResponse.step s op.action = some (act s op).1 := by
  cases op with
  | push event line formatted => simp [EventResponse.step, Op.action, act, formatted]
  | call maxLen pos => simp [EventResponse.step, Op.action, act, Nat.ne_of_gt pos]

lemma exec_of_legal {s t : EventStreamState} {order : List (Call Op Bytes)}
    (h : Legal act s order t) :
    Runs.exec EventResponse.step s (order.map fun c => c.op.action) = some t := by
  induction order generalizing s with
  | nil => exact congrArg some (legal_nil.mp h)
  | cons c order ih =>
    exact Runs.exec_cons.mpr ⟨(act s c.op).1, step_action s c.op, ih (legal_cons.mp h).2⟩

theorem stream_refines_response (as : List (Monitors.Action Op)) (w : World EventStreamState Op Bytes)
    (hrun : Runs.exec (Monitors.step monitor) { state := {} } as = some w) :
    ∃ order, Linearization act {} w.history order w.state ∧
      Runs.exec EventResponse.step {} (order.map fun c => c.op.action) = some w.state := by
  obtain ⟨order, hl⟩ := linearizable hrun
  exact ⟨order, hl, exec_of_legal hl.legal⟩

lemma sidePress_line : formatEventLine (sidePress "") = .ok "[mouse] BTN_SIDE" := by decide

def pressWhileWaiting : List (Monitors.Action Op) :=
  [.invoke 0 (.call 64 (by decide)), .move 0 .acquire, .move 0 .test, .move 0 .wait,
    .invoke 1 (.push (sidePress "") "[mouse] BTN_SIDE" sidePress_line), .move 1 .acquire,
    .move 1 .test, .commit 1]

def pressDelivered : List (Monitors.Action Op) :=
  [.notify 1 (some 0), .move 1 .release, .respond 1, .move 0 .acquire, .move 0 .test, .commit 0,
    .move 0 .release, .respond 0]

theorem waiting_call_ordered : ∃ w,
    Runs.exec (Monitors.step monitor) { state := {} } (pressWhileWaiting ++ pressDelivered) = some w ∧
    ∃ order, Linearization act {} w.history order w.state ∧
      Runs.exec EventResponse.step {} (order.map fun c => c.op.action) = some w.state := by
  obtain ⟨w, hw⟩ : ∃ w, Runs.exec (Monitors.step monitor) { state := {} }
      (pressWhileWaiting ++ pressDelivered) = some w := ⟨_, rfl⟩
  exact ⟨w, hw, stream_refines_response _ w hw⟩

lemma length_call (s : EventStreamState) (maxLen : ℕ) (pos : 0 < maxLen) :
    (act s (.call maxLen pos)).1.queue.length = s.queue.length - 1 := List.length_tail

lemma length_push (s : EventStreamState) {event : Json} {line : String}
    (formatted : formatEventLine event = .ok line) :
    (act s (.push event line formatted)).1.queue.length ≤ s.queue.length + 1 := by
  simp only [act, EventStreamState.pushBack, List.length_append, List.length_singleton]
  split
  · simp only [EventStreamState.popFront, List.length_tail]
    omega
  · rfl

lemma monitor_counted : Counted monitor fun s => s.queue.length := by
  refine ⟨fun s op hr => ?_, fun s op => ?_, fun s r op hr => ?_⟩
  · cases op with
    | push => cases hr
    | call => simpa [monitor, ready] using hr
  · cases op with
    | push event line formatted => exact length_push s formatted
    | call maxLen pos => exact (length_call s maxLen pos).trans_le (Nat.sub_le _ _)
  · cases op with
    | push => cases hr
    | call maxLen pos => exact (length_call s maxLen pos).le

lemma monitor_closing : Closing monitor fun _ => False := by
  refine ⟨fun _ _ h => h.elim, fun _ _ h => h, fun _ _ _ h => h.elim, fun s op hs => ?_⟩
  cases op <;> cases hs

theorem callback_settles (as bs : List (Monitors.Action Op)) (w w' : World EventStreamState Op Bytes)
    (hrun : Runs.exec (Monitors.step monitor) { state := {} } as = some w) (hown : ∀ a ∈ bs, a.own)
    (hrest : Runs.exec (Monitors.step monitor) w bs = some w') : bs.length ≤ w.fuel ∧
      (Stuck monitor w' → w'.atRest ∧ ∀ id op, w'.phase id = .waiting op →
        (∃ maxLen pos, op = .call maxLen pos) ∧ w'.state.queue = []) := by
  obtain ⟨hlen, hstuck⟩ := settles monitor_counted monitor_closing hrun hown hrest
  refine ⟨hlen, fun hs => ⟨(hstuck hs).1, fun id op hp => ?_⟩⟩
  obtain ⟨⟨r, hr⟩, hlevel, -⟩ := (hstuck hs).2 id op hp
  refine ⟨?_, List.eq_nil_of_length_eq_zero hlevel⟩
  cases op with
  | push => cases hr
  | call maxLen pos => exact ⟨maxLen, pos, rfl⟩

theorem waiting_call_settles : ∃ w w',
    Runs.exec (Monitors.step monitor) { state := {} } pressWhileWaiting = some w ∧ w.anyWaiting ∧
    Runs.exec (Monitors.step monitor) w pressDelivered = some w' ∧
    pressDelivered.length ≤ w.fuel ∧ (Stuck monitor w' → w'.atRest) := by
  obtain ⟨w, hw⟩ : ∃ w, Runs.exec (Monitors.step monitor) { state := {} } pressWhileWaiting = some w :=
    ⟨_, rfl⟩
  obtain ⟨hwaits, w', hw'⟩ : w.anyWaiting ∧
      ∃ w', Runs.exec (Monitors.step monitor) w pressDelivered = some w' := by
    obtain rfl := Option.some.inj hw
    exact ⟨⟨0, rfl⟩, _, rfl⟩
  obtain ⟨hlen, hstuck⟩ := callback_settles pressWhileWaiting pressDelivered w w' hw (by decide) hw'
  exact ⟨w, w', hw, hwaits, hw', hlen, fun hs => (hstuck hs).1⟩

end PointerForce.Bridge.EventStreamThreads
