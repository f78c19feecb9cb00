import PointerForce.Daemon.ConfigLoader
import PointerForce.Foundations.Runs

/-! The threads between the devices and the commands: the readers push events to the queue, the
multiplexer pops and dispatches them, and the control server and signals act in between. -/

namespace PointerForce.Daemon.EventLoop

open Foundations ConfigLoader Mapper

structure RawEvent where
  type : ℤ
  code : ℤ
  value : ℤ
  deriving DecidableEq, Repr

def evKey : ℤ := 1

structure Entry where
  id : String
  path : String
  active : Bool := true
  deriving DecidableEq, Repr

inductive Mux where
  | head
  | testReload
  | load
  | init
  | pop
  | handle (ev : InputEvent)
  | notify (ev : InputEvent) (cmd : String)
  | execute (ev : InputEvent) (cmd : String)
  | stopped
  deriving DecidableEq, Repr

inductive Dispatch where
  | popped (ev : InputEvent)
  | lookedUp (ev : InputEvent) (table : Table)
  | notified (ev : InputEvent) (cmd : String)
  | executed (cmd : String)

structure State where
  config : Config := {}
  table : Table := ∅
  files : String → Option Bytes := fun _ => none
  entries : ℕ → Option Entry := fun _ => none
  queue : List InputEvent := []
  running : Bool := true
  reload : Bool := false
  mux : Mux := .head
  /-- Successful loads of control clients that still have to initialise the mapper. -/
  clientInits : ℕ := 0
  crashed : Bool := false
  trace : List Dispatch := []

inductive Action where
  | deviceEvent (reader : ℕ) (raw : RawEvent) (now : ℕ)
  | disconnect (reader : ℕ)
  | mux
  | bind (deviceId keyName cmd : String)
  | unbind (deviceId keyName : String)
  | clientLoad
  | clientInit
  | edit (path : String) (file : Option Bytes)
  | hangup
  | terminate

variable (C : Codec) (K : KeyCodes)

def push (s : State) (ev : InputEvent) : State :=
  { s with queue := s.queue ++ [ev] }

def deliver (s : State) (e : Entry) (raw : RawEvent) (now : ℕ) : State :=
  if raw.type ≠ evKey then s
  else push s { deviceId := e.id, devicePath := e.path, code := raw.code, value := raw.value,
                timestamp := now }

def runLoad (s : State) (next : Bool → State → State) : State :=
  match (load C K s.config.configPath (s.files s.config.configPath)).run s.config with
  | .ok ok config => next ok { s with config }
  | .error _ config => { s with config, crashed := true }

def commandIn (table : Table) (ev : InputEvent) : String :=
  (lookup table ev.deviceId ev.code).getD ""

def muxStep (s : State) : Option State :=
  match s.mux with
  | .head => some { s with mux := if s.running then .testReload else .stopped }
  -- `g_reload.exchange(false)`
  | .testReload => some { s with mux := if s.reload then .load else .pop, reload := false }
  | .load => some (runLoad C K s fun ok s => { s with mux := if ok then .init else .pop })
  | .init => some { s with mux := .pop, table := Mapper.init s.table s.config }
  | .pop =>
    match s.queue with
    -- the pop has timed out
    | [] => some { s with mux := .head }
    | ev :: queue => some { s with mux := .handle ev, queue, trace := s.trace ++ [.popped ev] }
  | .handle ev =>
    if ev.value ≠ keyPress then some { s with mux := .notify ev "" }
    else some { s with
      mux := .notify ev (commandIn s.table ev), trace := s.trace ++ [.lookedUp ev s.table] }
  | .notify ev cmd => some { s with
      mux := if cmd = "" then .head else .execute ev cmd, trace := s.trace ++ [.notified ev cmd] }
  | .execute _ cmd => some { s with mux := .head, trace := s.trace ++ [.executed cmd] }
  | .stopped => none

def step (s : State) (a : Action) : Option State :=
  if s.crashed then none
  else match a with
    | .deviceEvent reader raw now =>
      match s.entries reader with
      | some e => if e.active then some (deliver s e raw now) else none
      | none => none
    | .disconnect reader => some { s with
        entries := Function.update s.entries reader
          ((s.entries reader).map fun e => { e with active := false }) }
    | .mux => muxStep C K s
    | .bind deviceId keyName cmd =>
      some { s with table := (addBinding K s.table deviceId keyName cmd).1 }
    | .unbind deviceId keyName =>
      some { s with table := (removeBinding K s.table deviceId keyName).1 }
    | .clientLoad => some (runLoad C K s fun ok s =>
        { s with clientInits := if ok then s.clientInits + 1 else s.clientInits })
    | .clientInit =>
      if 0 < s.clientInits then
        some { s with table := Mapper.init s.table s.config, clientInits := s.clientInits - 1 }
      else none
    | .edit path file => some { s with files := Function.update s.files path file }
    | .hangup => some { s with reload := true }
    | .terminate => some { s with running := false }

structure SameDispatch (s t : State) : Prop where
  mux : t.mux = s.mux
  reload : t.reload = s.reload
  queue : t.queue = s.queue
  trace : t.trace = s.trace

variable {C K} {s t : State} {a : Action}

lemma runLoad_cases (next : Bool → State → State) :
    (∃ ok config, runLoad C K s next = next ok { s with config }) ∨
      ∃ config, runLoad C K s next = { s with config, crashed := true } := by
  rw [runLoad]
  split
  · exact .inl ⟨_, _, rfl⟩
  · exact .inr ⟨_, rfl⟩

/-- The readers touch the queue and the signal touches the flag; nothing else that happens outside
the multiplexer concerns the dispatching. -/
lemma step_cases (h : step C K s a = some t) :
    (a = .mux ∧ s.crashed = false ∧ muxStep C K s = some t) ∨
      (a = .hangup ∧ t = { s with reload := true }) ∨
      (∃ reader raw now e, a = .deviceEvent reader raw now ∧ t = deliver s e raw now) ∨
      SameDispatch s t := by
  rw [step.eq_def] at h
  split at h
  case isTrue => cases h
  case isFalse hc =>
    cases a <;> simp only [Option.some.injEq] at h
    case deviceEvent reader raw now =>
      split at h
      · next e _ =>
        obtain ⟨-, h⟩ := Option.ite_none_right_eq_some.mp h
        exact .inr (.inr (.inl ⟨reader, raw, now, e, rfl, (Option.some.inj h).symm⟩))
      · cases h
    case mux => exact .inl ⟨rfl, Bool.eq_false_iff.mpr hc, h⟩
    case hangup => exact .inr (.inl ⟨rfl, h.symm⟩)
    case clientLoad =>
      subst h
      rcases runLoad_cases (C := C) (K := K) (s := s) _ with ⟨ok, config, he⟩ | ⟨config, he⟩
      · rw [he]
        exact .inr (.inr (.inr ⟨rfl, rfl, rfl, rfl⟩))
      · rw [he]
        exact .inr (.inr (.inr ⟨rfl, rfl, rfl, rfl⟩))
    case clientInit =>
      obtain ⟨-, h⟩ := Option.ite_none_right_eq_some.mp h
      obtain rfl := Option.some.inj h
      exact .inr (.inr (.inr ⟨rfl, rfl, rfl, rfl⟩))
    all_goals
      subst h
      exact .inr (.inr (.inr ⟨rfl, rfl, rfl, rfl⟩))

end PointerForce.Daemon.EventLoop
