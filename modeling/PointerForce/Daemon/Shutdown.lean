import PointerForce.Foundations.Runs

/-! The end of the daemon: the main thread leaves the multiplexer, stops the control server and
destroys what the handlers work on. The server joins its accept thread; the handlers are detached
threads that nobody waits for. -/

namespace PointerForce.Daemon.Shutdown

open Foundations.Runs

inductive Main where
  | looping
  | muxReturned
  -- in `ControlServer::stop`, after each of its steps
  | flagCleared
  | socketClosed
  | acceptJoined
  | stopReturned
  | devicesStopped
  | queueShutDown
  | pidRemoved
  | muxDestroyed
  | devicesDestroyed
  | mapperDestroyed
  | exited
  deriving DecidableEq, Repr

def Main.next : Main → Main
  | .looping => .muxReturned
  | .muxReturned => .flagCleared
  | .flagCleared => .socketClosed
  | .socketClosed => .acceptJoined
  | .acceptJoined => .stopReturned
  | .stopReturned => .devicesStopped
  | .devicesStopped => .queueShutDown
  | .queueShutDown => .pidRemoved
  | .pidRemoved => .muxDestroyed
  | .muxDestroyed => .devicesDestroyed
  | .devicesDestroyed => .mapperDestroyed
  | .mapperDestroyed | .exited => .exited

def Main.beforeStopReturns : Main → Bool
  | .looping | .muxReturned | .flagCleared | .socketClosed | .acceptJoined => true
  | _ => false

def Main.listening : Main → Bool
  | .looping | .muxReturned | .flagCleared => true
  | _ => false

inductive Operation where
  | getInfo
  | allBindings
  | addBinding
  | removeBinding
  | init
  | addObserver
  | removeObserver
  deriving DecidableEq, Repr

inductive Command where
  | status
  | devices
  | bindings
  | bind
  | unbind
  | events
  | reload (loads : Bool)
  -- an empty or ill-formed line, missing fields, an unknown command
  | other
  deriving DecidableEq, Repr

def operations : Command → List Operation
  | .status => [.getInfo, .allBindings]
  | .devices => [.getInfo]
  | .bindings => [.allBindings]
  | .bind => [.addBinding]
  | .unbind => [.removeBinding]
  | .events => [.addObserver]
  | .reload true => [.init]
  | .reload false | .other => []

inductive Handler where
  | reading
  | serving (left : List Operation)
  | subscribed
  | unsubscribing
  | closed
  deriving DecidableEq, Repr

inductive Accept where
  | testing
  | polling
  | accepted (c : ℕ)
  | ended
  deriving DecidableEq, Repr

structure Performed where
  client : ℕ
  operation : Operation
  main : Main
  deriving DecidableEq, Repr

structure State where
  main : Main := .looping
  running : Bool := true
  accept : Accept := .testing
  handler : ℕ → Option Handler := fun _ => none
  performed : List Performed := []

inductive Action where
  | terminate
  | main
  | testRunning
  | acceptFails
  | acceptClient (c : ℕ)
  | detach
  | request (c : ℕ) (cmd : Command)
  | perform (c : ℕ)
  | reply (c : ℕ)
  -- the events loop ends: the client has gone, or `g_running` is false
  | leave (c : ℕ)
  | readFails (c : ℕ)
  deriving DecidableEq, Repr

def State.setHandler (s : State) (c : ℕ) (h : Handler) : State :=
  { s with handler := Function.update s.handler c (some h) }

def State.log (s : State) (c : ℕ) (op : Operation) : State :=
  { s with performed := s.performed ++ [⟨c, op, s.main⟩] }

def mainReady (s : State) : Bool :=
  match s.main with
  | .looping => !s.running
  | .socketClosed => s.accept == .ended
  | .exited => false
  | _ => true

-- `running_` of the server is cleared by the first step of `stop`
def serverRunning (m : Main) : Bool := m == .looping || m == .muxReturned

def perform (s : State) (c : ℕ) : Option State :=
  match s.handler c with
  | some (.serving (.addObserver :: _)) => some ((s.log c .addObserver).setHandler c .subscribed)
  | some (.serving (op :: left)) => some ((s.log c op).setHandler c (.serving left))
  | some .unsubscribing => some ((s.log c .removeObserver).setHandler c .closed)
  | _ => none

def step (s : State) (a : Action) : Option State :=
  if s.main = .exited then none
  else match a with
  | .terminate => some { s with running := false }
  | .main => if mainReady s then some { s with main := s.main.next } else none
  | .testRunning =>
    if s.accept = .testing then
      some { s with accept := if serverRunning s.main then .polling else .ended }
    else none
  | .acceptFails => if s.accept = .polling then some { s with accept := .testing } else none
  | .acceptClient c =>
    if s.accept = .polling ∧ s.main.listening ∧ s.handler c = none then
      some { s with accept := .accepted c }
    else none
  | .detach =>
    match s.accept with
    | .accepted c => some { s.setHandler c .reading with accept := .testing }
    | _ => none
  | .request c cmd =>
    if s.handler c = some .reading then some (s.setHandler c (.serving (operations cmd))) else none
  | .perform c => perform s c
  | .reply c => if s.handler c = some (.serving []) then some (s.setHandler c .reading) else none
  | .leave c =>
    if s.handler c = some .subscribed then some (s.setHandler c .unsubscribing) else none
  | .readFails c =>
    if s.handler c = some .reading then some (s.setHandler c .closed) else none

def Stopped (s : State) : Prop := ∀ p ∈ s.performed, p.main.beforeStopReturns

def Handler.idle : Handler → Bool
  | .reading | .serving [] | .closed => true
  | _ => false

/-- When `stop` returns, no request is being served and no event stream is open; and after that no
handler reads a request that needs an operation. -/
def Quiet (s : State) : Action → Prop
  | .main => s.main = .acceptJoined → ∀ c h, s.handler c = some h → h.idle
  | .request _ cmd => s.main.beforeStopReturns ∨ operations cmd = []
  | _ => True

section Steps

inductive Stepped (s : State) : Action → State → Prop
  | terminate : Stepped s .terminate { s with running := false }
  | main (h : mainReady s) : Stepped s .main { s with main := s.main.next }
  | tested (h : s.accept = .testing) : Stepped s .testRunning
      { s with accept := if serverRunning s.main then .polling else .ended }
  | acceptFailed (h : s.accept = .polling) : Stepped s .acceptFails { s with accept := .testing }
  | accepted (c : ℕ) (h : s.accept = .polling) : Stepped s (.acceptClient c)
      { s with accept := .accepted c }
  | detached (c : ℕ) (h : s.accept = .accepted c) : Stepped s .detach
      { s.setHandler c .reading with accept := .testing }
  | requested (c : ℕ) (cmd : Command) (h : s.handler c = some .reading) :
      Stepped s (.request c cmd) (s.setHandler c (.serving (operations cmd)))
  | performed (c : ℕ) (op : Operation) (before after : Handler) (h : s.handler c = some before)
      (hb : before.idle = false) : Stepped s (.perform c) ((s.log c op).setHandler c after)
  | replied (c : ℕ) : Stepped s (.reply c) (s.setHandler c .reading)
  | left (c : ℕ) (h : s.handler c = some .subscribed) :
      Stepped s (.leave c) (s.setHandler c .unsubscribing)
  | readFailed (c : ℕ) : Stepped s (.readFails c) (s.setHandler c .closed)

variable {s t : State} {a : Action}

lemma perform_stepped {c : ℕ} (h : perform s c = some t) : Stepped s (.perform c) t := by
  rw [perform] at h
  split at h
  · next hh =>
    obtain rfl := Option.some.inj h
    exact .performed c _ _ _ hh rfl
  · next hh =>
    obtain rfl := Option.some.inj h
    exact .performed c _ _ _ hh rfl
  · next hh =>
    obtain rfl := Option.some.inj h
    exact .performed c _ _ _ hh rfl
  · cases h

lemma stepped (h : step s a = some t) : Stepped s a t := by
  rw [step.eq_def] at h
  split at h
  · cases h
  · cases a with
    | terminate =>
      obtain rfl := Option.some.inj h
      exact .terminate
    | perform c => exact perform_stepped h
    | detach =>
      simp only at h
      split at h
      · next hc =>
        obtain rfl := Option.some.inj h
        exact .detached _ hc
      · cases h
    | main =>
      obtain ⟨hc, rfl⟩ := Option.ite_some_none_eq_some.mp h
      exact .main hc
    | testRunning =>
      obtain ⟨hc, rfl⟩ := Option.ite_some_none_eq_some.mp h
      exact .tested hc
    | acceptFails =>
      obtain ⟨hc, rfl⟩ := Option.ite_some_none_eq_some.mp h
      exact .acceptFailed hc
    | acceptClient c =>
      obtain ⟨hc, rfl⟩ := Option.ite_some_none_eq_some.mp h
      exact .accepted c hc.1
    | request c cmd =>
      obtain ⟨hc, rfl⟩ := Option.ite_some_none_eq_some.mp h
      exact .requested c cmd hc
    | reply c =>
      obtain ⟨hc, rfl⟩ := Option.ite_some_none_eq_some.mp h
      exact .replied c
    | leave c =>
      obtain ⟨hc, rfl⟩ := Option.ite_some_none_eq_some.mp h
      exact .left c hc
    | readFails c =>
      obtain ⟨hc, rfl⟩ := Option.ite_some_none_eq_some.mp h
      exact .readFailed c

end Steps

section Invariant

def Main.acceptEnded (m : Main) : Bool :=
  !m.beforeStopReturns || m == .acceptJoined

structure Inv (s : State) : Prop where
  ended : s.main.acceptEnded → s.accept = .ended
  idle : ¬ s.main.beforeStopReturns → ∀ c h, s.handler c = some h → h.idle
  stopped : Stopped s

variable {s t : State} {a : Action}

lemma idle_setHandler {c : ℕ} {h : Handler} (hs : ∀ c h, s.handler c = some h → h.idle)
    (hh : h.idle) : ∀ d h', (s.setHandler c h).handler d = some h' → h'.idle := by
  intro d h' hd
  simp only [State.setHandler, Function.update_apply] at hd
  split at hd
  · obtain rfl := Option.some.inj hd
    exact hh
  · exact hs d h' hd

lemma inv_accept (hi : Inv s) (hne : s.accept ≠ .ended) {accept : Accept} :
    Inv { s with accept } := by
  -- the accept thread is at work, so the server has not joined it
  refine ⟨fun hm => absurd (hi.ended hm) hne, fun hm => ?_, hi.stopped⟩
  exact absurd (hi.ended (by simp [Main.acceptEnded, hm])) hne

lemma inv_idle (hi : Inv s) (c : ℕ) {h : Handler}
    (hh : ¬ s.main.beforeStopReturns → h.idle) : Inv (s.setHandler c h) :=
  ⟨hi.ended, fun hm => idle_setHandler (hi.idle hm) (hh hm), hi.stopped⟩

lemma inv_start : Inv {} := ⟨nofun, fun hm => absurd rfl hm, nofun⟩

lemma inv_main (hi : Inv s) (hr : mainReady s) (hq : Quiet s .main) :
    Inv { s with main := s.main.next } := by
  refine ⟨fun hm => ?_, fun hm c h hc => ?_, hi.stopped⟩
  · cases he : s.main with
    | socketClosed =>
      rw [mainReady, he] at hr
      exact beq_iff_eq.mp hr
    | looping | muxReturned | flagCleared =>
      rw [he] at hm
      cases hm
    | _ => exact hi.ended (by rw [he]; rfl)
  · cases he : s.main with
    | acceptJoined => exact hq he c h hc
    | looping | muxReturned | flagCleared | socketClosed =>
      rw [he] at hm
      exact absurd rfl hm
    | _ => exact hi.idle (by rw [he]; decide) c h hc

lemma inv_step (hi : Inv s) (hq : Quiet s a) (h : step s a = some t) : Inv t := by
  cases stepped h with
  | terminate => exact ⟨hi.ended, hi.idle, hi.stopped⟩
  | main hr => exact inv_main hi hr hq
  | tested hc => exact inv_accept hi (by simp [hc])
  | acceptFailed hc => exact inv_accept hi (by simp [hc])
  | accepted c hc => exact inv_accept hi (by simp [hc])
  | detached c hc => exact inv_accept (inv_idle hi c fun _ => rfl) (by simp [State.setHandler, hc])
  | requested c cmd hc =>
    refine inv_idle hi c fun hm => ?_
    rw [hq.resolve_left hm]
    rfl
  | performed c op before after hc hb =>
    have hm : s.main.beforeStopReturns := by
      by_contra hm
      exact absurd (hi.idle hm c before hc) (by simp [hb])
    refine ⟨hi.ended, fun hn => absurd hm hn, fun p hp => ?_⟩
    rcases List.mem_append.mp hp with hp | hp
    · exact hi.stopped p hp
    · obtain rfl := List.mem_singleton.mp hp
      exact hm
  | replied c => exact inv_idle hi c fun _ => rfl
  | left c hc =>
    refine inv_idle hi c fun hm => ?_
    exact absurd (hi.idle hm c _ hc) (by decide)
  | readFailed c => exact inv_idle hi c fun _ => rfl

end Invariant

theorem control_plane_stopped (as : List Action) (t : State) (hrun : exec step {} as = some t)
    (hquiet : Guarded step Quiet {} as) : Stopped t :=
  (guarded_invariant (fun _ _ _ => inv_step) inv_start hquiet hrun).stopped

section Necessity

variable {s t : State} {c : ℕ}

lemma perform_serving {op : Operation} {ops : List Operation}
    (hc : s.handler c = some (.serving (op :: ops))) :
    ∃ h, perform s c = some ((s.log c op).setHandler c h) := by
  cases op with
  | addObserver => exact ⟨.subscribed, by simp only [perform, hc]⟩
  | _ => exact ⟨.serving ops, by simp only [perform, hc]⟩

lemma late_perform (hm : s.main ≠ .exited) (hs : ¬ s.main.beforeStopReturns) {op : Operation}
    {h : Handler} (hp : perform s c = some ((s.log c op).setHandler c h)) :
    ∃ as t, exec step s as = some t ∧ ¬ Stopped t := by
  have hstep : step s (.perform c) = some ((s.log c op).setHandler c h) := by
    rw [step.eq_def, if_neg hm]
    exact hp
  refine ⟨[.perform c], (s.log c op).setHandler c h, exec_cons.mpr ⟨_, hstep, rfl⟩, fun ht => ?_⟩
  exact hs (ht ⟨c, op, s.main⟩ (List.mem_append_right _ List.mem_cons_self))

lemma late_of_not_idle (hm : s.main ≠ .exited) (hs : ¬ s.main.beforeStopReturns) {h : Handler}
    (hc : s.handler c = some h) (hh : ¬ h.idle) :
    ∃ as t, exec step s as = some t ∧ ¬ Stopped t := by
  cases h with
  | reading | closed => exact absurd rfl hh
  | serving left =>
    cases left with
    | nil => exact absurd rfl hh
    | cons op ops =>
      obtain ⟨h, hp⟩ := perform_serving hc
      exact late_perform hm hs hp
  | unsubscribing =>
    have hp : perform s c = some ((s.log c .removeObserver).setHandler c .closed) := by
      simp only [perform, hc]
    exact late_perform hm hs hp
  | subscribed =>
    -- the client hangs up, and the observer is removed
    have hleave : step s (.leave c) = some (s.setHandler c .unsubscribing) := by
      rw [step.eq_def, if_neg hm]
      exact if_pos hc
    have hp : perform (s.setHandler c .unsubscribing) c =
        some (((s.setHandler c .unsubscribing).log c .removeObserver).setHandler c .closed) := by
      simp only [perform, State.setHandler, Function.update_self]
    obtain ⟨as, t, hrun, ht⟩ := @late_perform (s.setHandler c .unsubscribing) c hm hs _ _ hp
    exact ⟨.leave c :: as, t, exec_cons.mpr ⟨_, hleave, hrun⟩, ht⟩

theorem late_of_not_quiet {a : Action} (h : step s a = some t) (hq : ¬ Quiet s a) :
    ∃ as u, exec step t as = some u ∧ ¬ Stopped u := by
  have hm : s.main ≠ .exited := by
    intro hm
    rw [step.eq_def, if_pos hm] at h
    cases h
  cases stepped h with
  | main hr =>
    rw [Quiet] at hq
    push Not at hq
    obtain ⟨hj, c, h, hc, hh⟩ := hq
    exact late_of_not_idle (by simp [hj, Main.next]) (by simp [hj, Main.next]; decide) hc hh
  | requested c cmd hc =>
    rw [Quiet, not_or] at hq
    have hserving : (s.setHandler c (.serving (operations cmd))).handler c =
        some (.serving (operations cmd)) := Function.update_self ..
    refine late_of_not_idle hm hq.1 hserving fun hidle => hq.2 ?_
    cases ho : operations cmd with
    | nil => rfl
    | cons op ops =>
      rw [ho] at hidle
      cases hidle
  | _ => exact absurd trivial hq

end Necessity

def servedClient : List Action :=
  [.testRunning, .acceptClient 0, .detach, .request 0 .status, .perform 0, .terminate, .perform 0,
    .main, .main, .reply 0, .main, .testRunning, .main, .readFails 0, .main, .main, .main]

theorem status_before_stop :
    (∃ t, exec step {} servedClient = some t) ∧
      ∀ t, exec step {} servedClient = some t → Stopped t := by
  refine ⟨⟨_, rfl⟩, fun t ht => control_plane_stopped servedClient t ht ?_⟩
  iterate 3 refine guarded_cons trivial rfl ?_
  refine guarded_cons (.inl rfl) rfl ?_
  iterate 3 refine guarded_cons trivial rfl ?_
  iterate 2 refine guarded_cons nofun rfl ?_
  refine guarded_cons trivial rfl (guarded_cons nofun rfl ?_)
  refine guarded_cons trivial rfl (guarded_cons nofun rfl (guarded_cons trivial rfl ?_))
  refine guarded_cons (fun _ c h hc => ?_) rfl ?_
  · by_cases hne : c = 0
    · subst hne
      obtain rfl : Handler.closed = h := Option.some.inj hc
      rfl
    · simp [State.setHandler, State.log, hne] at hc
  · iterate 2 refine guarded_cons nofun rfl ?_
    trivial

def lateBind : List Action :=
  [.testRunning, .acceptClient 0, .detach, .terminate, .main, .main, .testRunning, .main, .main,
    .main, .main, .main, .main, .main, .main, .main, .request 0 .bind, .perform 0]

theorem bind_after_destruction :
    ¬ ∀ (as : List Action) (t : State), exec step {} as = some t → Stopped t := by
  intro hall
  obtain ⟨t, ht⟩ : ∃ t, exec step {} lateBind = some t := ⟨_, rfl⟩
  have hp := exec_all (p := fun t => t.performed = [⟨0, .addBinding, .mapperDestroyed⟩])
    (by decide) ht
  exact absurd (hall lateBind t ht ⟨0, .addBinding, .mapperDestroyed⟩ (by simp [hp])) (by decide)

end PointerForce.Daemon.Shutdown
