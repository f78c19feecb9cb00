import PointerForce.Daemon.ClientSafety
import PointerForce.Daemon.Observers

/-! Clients that disconnect. A write to a connection whose peer has closed raises `SIGPIPE`, and the
program leaves the disposition of that signal as it finds it. -/

namespace PointerForce.Daemon.Disconnects

open Foundations Foundations.Runs ControlServer ClientSafety Observers

inductive Signal where
  | segv
  | abrt
  | term
  | int
  | hup
  | chld
  | pipe
  deriving DecidableEq, Repr

inductive Disposition where
  | default
  | ignore
  | handler
  deriving DecidableEq, Repr

abbrev Dispositions := Signal → Disposition

def crashHandlers (d : Dispositions) : Dispositions :=
  Function.update (Function.update d .segv .handler) .abrt .handler

def installSignalHandlers (d : Dispositions) : Dispositions :=
  Function.update (Function.update (Function.update d .term .handler) .int .handler) .hup .handler

-- `Executor::run` before its fork
def ignoreChildren (d : Dispositions) : Dispositions := Function.update d .chld .ignore

def atStart : Dispositions := installSignalHandlers (crashHandlers fun _ => .default)

structure State where
  observers : Observers.State := {}
  session : Session := {}
  /-- What the thread of a connection has still to write of its reply. -/
  reply : ℕ → Bytes := fun _ => []
  dispositions : Dispositions := atStart
  dead : Bool := false

inductive Action where
  | observers (a : Observers.Action)
  | request (c : ℕ) (line : Bytes)
  | reply (c n : ℕ)
  | replyFails (c : ℕ)
  | execute
  | edit (path : String) (file : Option Bytes)

def State.setReply (s : State) (c : ℕ) (bytes : Bytes) : State :=
  { s with reply := Function.update s.reply c bytes }

/-- The write has raised the signal; where that does not kill the process, it fails. -/
def State.brokenPipe (s failed : State) : State :=
  if s.dispositions .pipe = .default then { s with dead := true } else failed

variable (C : Codec) (K : KeyCodes)

def receive (s : State) (c fd : ℕ) (line : Bytes) : State :=
  match (handleLine C K line).run { s.session with sent := [], streaming := false } with
  -- the exception leaves the thread
  | .error _ session => { s with session, dead := true }
  | .ok () session =>
    if session.streaming then { s with session, observers := addObserver s.observers c fd }
    else { s with session }.setReply c (session.sent.flatMap C.fastWriter)

def observersStep (s : State) (a : Observers.Action) : Option State :=
  (Observers.step C K s.observers a).map fun observers => { s with observers }

def step (s : State) (a : Action) : Option State :=
  if s.dead then none
  else match a with
    | .request c line =>
      match s.observers.handler c with
      | some (.serving fd) => if s.reply c = [] then some (receive C K s c fd line) else none
      | _ => none
    | .reply c n =>
      if s.reply c = [] then none
      else if s.observers.hungUp c then some (s.brokenPipe (s.setReply c []))
      else if 0 < n then some (s.setReply c ((s.reply c).drop n))
      else none
    | .replyFails c => some (s.setReply c [])
    | .execute => some { s with dispositions := ignoreChildren s.dispositions }
    | .edit path file => some { s with
        session := { s.session with files := Function.update s.session.files path file } }
    -- a subscription is a request, and the signal that ends the daemon is not the clients'
    | .observers (.events _) | .observers .terminate => none
    | .observers (.readFails c) =>
      if s.reply c = [] then observersStep C K s (.readFails c) else none
    | .observers (.write n) =>
      match eventTarget s.observers with
      | none => none
      | some c =>
        if s.observers.hungUp c then (observersStep C K s .writeFails).map s.brokenPipe
        else observersStep C K s (.write n)
    | .observers a => observersStep C K s a

/-- A request line is one whose processing raises no exception, and nothing is written to a
connection whose peer has closed. -/
def Connected (s : State) : Action → Prop
  | .request _ line => SafeLine C K { s.session with sent := [], streaming := false } line
  | .reply c _ => s.observers.hungUp c = false
  | .observers (.write _) => ∀ c, eventTarget s.observers = some c → s.observers.hungUp c = false
  | _ => True

section Steps

variable {C K} {s t : State} {a : Action} {c fd : ℕ}

def Fatal (s : State) : Prop := s.dispositions .pipe = .default

lemma fatal_atStart : atStart .pipe = .default := rfl

lemma observersStep_frame {b : Observers.Action} (h : observersStep C K s b = some t) :
    t.dispositions = s.dispositions ∧ t.dead = s.dead := by
  obtain ⟨observers, -, rfl⟩ := Option.map_eq_some_iff.mp h
  exact ⟨rfl, rfl⟩

lemma receive_alive (hf : Fatal s) (hs : s.dead = false) (line : Bytes) :
    Fatal (receive C K s c fd line) ∧
      ((receive C K s c fd line).dead = false ↔ Connected C K s (.request c line)) := by
  have hraise := raises_iff (C := C) K { s.session with sent := [], streaming := false } line
  rw [Connected, receive]
  split
  · next e session he =>
    refine ⟨hf, iff_of_false Bool.true_eq_false.mp fun hsafe => ?_⟩
    exact hraise.mp ⟨e, session, he⟩ hsafe
  · next session hok =>
    have hsafe := not_not.mp (mt hraise.mpr (by
      rintro ⟨e, session', he⟩
      rw [hok] at he
      cases he))
    split
    · exact ⟨hf, iff_of_true hs hsafe⟩
    · exact ⟨hf, iff_of_true hs hsafe⟩

lemma brokenPipe_dead (hf : Fatal s) (failed : State) :
    Fatal (s.brokenPipe failed) ∧ (s.brokenPipe failed).dead = true := by
  have hd : s.dispositions .pipe = .default := hf
  rw [State.brokenPipe, if_pos hd]
  exact ⟨hf, rfl⟩

lemma reply_alive (hf : Fatal s) (hs : s.dead = false) {n : ℕ}
    (h : step C K s (.reply c n) = some t) :
    Fatal t ∧ (t.dead = false ↔ Connected C K s (.reply c n)) := by
  rw [Connected]
  simp only [step, hs, Bool.false_eq_true, if_false, Option.ite_none_left_eq_some] at h
  obtain ⟨-, h⟩ := h
  split at h
  · next hu =>
    obtain ⟨hf', hd⟩ := brokenPipe_dead hf (s.setReply c [])
    obtain rfl := Option.some.inj h
    exact ⟨hf', iff_of_false (by simp [hd]) (by simp [hu])⟩
  · next hu =>
    obtain ⟨-, h⟩ := Option.ite_none_right_eq_some.mp h
    obtain rfl := Option.some.inj h
    exact ⟨hf, iff_of_true hs (Bool.not_eq_true _ ▸ hu)⟩

lemma write_alive (hf : Fatal s) (hs : s.dead = false) {n : ℕ}
    (h : step C K s (.observers (.write n)) = some t) :
    Fatal t ∧ (t.dead = false ↔ Connected C K s (.observers (.write n))) := by
  rw [Connected]
  simp only [step, hs, Bool.false_eq_true, if_false] at h
  split at h
  · cases h
  · next c hc =>
    split at h
    · next hu =>
      obtain ⟨failed, -, rfl⟩ := Option.map_eq_some_iff.mp h
      obtain ⟨hf', hd⟩ := brokenPipe_dead hf failed
      refine ⟨hf', iff_of_false (by simp [hd]) fun hall => ?_⟩
      rw [hall c hc] at hu
      cases hu
    · next hu =>
      obtain ⟨hdisp, hdead⟩ := observersStep_frame h
      refine ⟨by rw [Fatal, hdisp]; exact hf, iff_of_true (hdead.trans hs) fun c' hc' => ?_⟩
      obtain rfl : c = c' := Option.some.inj (hc.symm.trans hc')
      exact Bool.not_eq_true _ ▸ hu

lemma step_alive (hf : Fatal s) (h : step C K s a = some t) :
    Fatal t ∧ (t.dead = false ↔ Connected C K s a) := by
  have hs : s.dead = false := by
    rw [step.eq_def] at h
    split at h
    · cases h
    · next hd => exact Bool.not_eq_true _ ▸ hd
  have hframe : ∀ b, observersStep C K s b = some t → Fatal t ∧ (t.dead = false ↔ True) := by
    intro b hb
    obtain ⟨hdisp, hdead⟩ := observersStep_frame hb
    exact ⟨by rw [Fatal, hdisp]; exact hf, iff_of_true (hdead.trans hs) trivial⟩
  cases a with
  | request c line =>
    simp only [step, hs, Bool.false_eq_true, if_false] at h
    split at h
    · obtain ⟨-, h⟩ := Option.ite_none_right_eq_some.mp h
      exact Option.some.inj h ▸ receive_alive hf hs line
    · cases h
  | reply c n => exact reply_alive hf hs h
  | replyFails c =>
    simp only [step, hs, Bool.false_eq_true, if_false] at h
    obtain rfl := Option.some.inj h
    exact ⟨hf, iff_of_true hs trivial⟩
  | execute =>
    simp only [step, hs, Bool.false_eq_true, if_false] at h
    obtain rfl := Option.some.inj h
    exact ⟨hf, iff_of_true rfl trivial⟩
  | edit path file =>
    simp only [step, hs, Bool.false_eq_true, if_false] at h
    obtain rfl := Option.some.inj h
    exact ⟨hf, iff_of_true rfl trivial⟩
  | observers b =>
    by_cases hw : ∃ n, b = .write n
    · obtain ⟨n, rfl⟩ := hw
      exact write_alive hf hs h
    · simp only [step, hs, Bool.false_eq_true, if_false] at h
      cases b with
      | write n => exact absurd ⟨n, rfl⟩ hw
      | events c => cases h
      | terminate => cases h
      | readFails c =>
        obtain ⟨-, h⟩ := Option.ite_none_right_eq_some.mp h
        exact hframe _ h
      | _ => exact hframe _ h

lemma step_dead (h : s.dead ≠ false) (a : Action) : step C K s a = none := by
  rw [step.eq_def, if_pos (Bool.not_eq_false _ ▸ h)]

end Steps

theorem survives_iff_connected (session : Session) (as : List Action) (t : State)
    (hrun : exec (step C K) { session } as = some t) :
    t.dead = false ↔ Guarded (step C K) (Connected C K) { session } as :=
  alive_iff_guarded (fun _ _ _ hf h => step_alive hf h) (fun _ a hd => step_dead hd a) fatal_atStart
    rfl hrun

section Runs

def emptyRequest : Bytes := [0x7b, 0x7d]

def missingCmd : Json := errResponse "Invalid JSON or missing 'cmd'"

def missingCmdText : Bytes :=
  utf8 "\x7b\"error\":\"Invalid JSON or missing 'cmd'\",\"ok\":false\x7d\n"

def missingCmdCodec : Codec := .ofTable [(emptyRequest, .object []), (missingCmdText, missingCmd)]

lemma emptyRequest_safe (s : Session) : SafeLine missingCmdCodec inputEventCodes s emptyRequest := by
  right
  intro req hr
  obtain rfl : .object [] = req := Option.some.inj hr
  refine ⟨Json.indexable_object [], ?_⟩
  rintro v ⟨⟩

def answeredRun : List Action :=
  [.observers (.accept 0 5), .request 0 emptyRequest, .reply 0 missingCmdText.length,
    .observers (.hangUp 0), .observers (.readFails 0), .observers (.close 0)]

lemma answeredRun_connected :
    Guarded (step missingCmdCodec inputEventCodes) (Connected missingCmdCodec inputEventCodes) {}
      answeredRun := by
  refine guarded_cons trivial rfl (guarded_cons (emptyRequest_safe _) rfl ?_)
  refine guarded_cons rfl rfl ?_
  iterate 3 refine guarded_cons trivial rfl ?_
  trivial

theorem answered_client_leaves :
    ∃ t, exec (step missingCmdCodec inputEventCodes) {} answeredRun = some t ∧ t.dead = false := by
  refine ⟨_, rfl, ?_⟩
  exact (survives_iff_connected missingCmdCodec inputEventCodes {} answeredRun _ rfl).mpr
    answeredRun_connected

theorem reply_to_closed_client : ∃ t, exec (step missingCmdCodec inputEventCodes) {}
      [.observers (.accept 0 5), .request 0 emptyRequest, .observers (.hangUp 0),
        .reply 0 missingCmdText.length] = some t ∧ ¬ t.dead = false :=
  ⟨_, rfl, Bool.true_eq_false.mp⟩

end Runs

end PointerForce.Daemon.Disconnects
