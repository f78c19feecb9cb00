import PointerForce.Daemon.FailedReload
import PointerForce.Foundations.Runs
import Mathlib.Data.List.TakeWhile

/-! The path of the control socket. It is bound once, at most the first 107 bytes of it, while every
reload can give the configuration another path, which `stop` then unlinks. -/

namespace PointerForce.Daemon.ControlSocket

open Foundations Foundations.Runs ConfigLoader

def sunPathSize : ℕ := 108

/-- The bytes of a string that a function that takes a C string sees. -/
def cStr (s : String) : Bytes := (utf8 s).takeWhile (· ≠ 0)

-- the `strncpy` into the zeroed address
def sunPath (s : String) : Bytes := (cStr s).take (sunPathSize - 1)

inductive StartResult where
  | socketFails
  | bindFails
  | listenFails
  | listens
  deriving DecidableEq, Repr

def StartResult.binds : StartResult → Bool
  | .socketFails | .bindFails => false
  | .listenFails | .listens => true

/-- An unlinked path, with the one that this start then binds or that has been bound. -/
structure Unlink where
  path : Bytes
  bound : Option Bytes
  deriving DecidableEq, Repr

structure State where
  config : Config := {}
  started : Bool := false
  bound : Option Bytes := none
  listening : Bool := false
  crashed : Bool := false
  unlinks : List Unlink := []

inductive Action where
  | start (result : StartResult)
  | load (path : String) (file : Option Bytes)
  | stop

variable (C : Codec) (K : KeyCodes)

def step (s : State) (a : Action) : Option State :=
  if s.crashed then none
  else match a with
    | .start result =>
      if s.listening then none
      else
        let bound := if result.binds then some (sunPath s.config.controlSocket) else none
        some { s with
          started := true
          bound
          listening := result == .listens
          unlinks := s.unlinks ++ [⟨cStr s.config.controlSocket, bound⟩] }
    | .load path file =>
      match (load C K path file).run s.config with
      | .ok _ config => some { s with config }
      | .error _ config => some { s with config, listening := false, crashed := true }
    | .stop =>
      if s.started then
        some { s with
          listening := false
          unlinks := s.unlinks ++ [⟨cStr s.config.controlSocket, s.bound⟩] }
      else none

structure SocketPath (s : State) : Prop where
  listening : s.listening = true → s.bound = some (utf8 s.config.controlSocket)
  unlinks : ∀ u ∈ s.unlinks, u.bound = some u.path

def Fits (path : String) : Prop := (utf8 path).length < sunPathSize ∧ 0 ∉ utf8 path

/-- The server binds a path that fits, and no file that is loaded from then on gives another. -/
def KeepsPath (s : State) : Action → Prop
  | .start result => Fits s.config.controlSocket ∧ result.binds = true
  | .load _ file => s.bound.isSome → ∀ root, file.bind C.reader = some root →
      ∀ path, (optionsOf root).controlSocket = some path → path = s.config.controlSocket
  | .stop => True

structure Inv (s : State) : Prop where
  bound : ∀ path, s.bound = some path →
    path = utf8 s.config.controlSocket ∧ Fits s.config.controlSocket
  started : s.started = true → s.bound.isSome
  listening : s.listening = true → s.started = true
  unlinks : ∀ u ∈ s.unlinks, u.bound = some u.path

section Paths

variable {path : String}

lemma cStr_eq (h : 0 ∉ utf8 path) : cStr path = utf8 path := by
  rw [cStr, List.takeWhile_eq_self_iff]
  intro b hb
  exact decide_eq_true fun he => h (he ▸ hb)

lemma sunPath_eq_iff : sunPath path = utf8 path ↔ Fits path := by
  constructor
  · intro h
    rw [Fits, ← h, sunPath]
    constructor
    · have hlen := List.length_take_le (sunPathSize - 1) (cStr path)
      rw [sunPathSize] at hlen ⊢
      omega
    · intro h0
      have hmem := List.mem_takeWhile_imp (List.mem_of_mem_take h0)
      simp at hmem
  · intro h
    have hlen := h.1
    rw [sunPath, cStr_eq h.2, List.take_of_length_le]
    rw [sunPathSize] at hlen ⊢
    omega

end Paths

section Steps

variable {C K} {s t : State} {a : Action}

lemma cleared_controlSocket (path : String) (root : Json) (g : Config) :
    (cleared path root g).controlSocket = g.controlSocket ∨
      (optionsOf root).controlSocket = some (cleared path root g).controlSocket := by
  rw [cleared, FileOptions.apply]
  cases (optionsOf root).controlSocket with
  | none => exact .inl rfl
  | some p => exact .inr rfl

lemma start_eq {result : StartResult} (h : step C K s (.start result) = some t) : t = { s with
    started := true
    bound := if result.binds then some (sunPath s.config.controlSocket) else none
    listening := result == .listens
    unlinks := s.unlinks ++ [⟨cStr s.config.controlSocket,
      if result.binds then some (sunPath s.config.controlSocket) else none⟩] } := by
  obtain ⟨-, h⟩ := Option.ite_none_left_eq_some.mp h
  obtain ⟨-, h⟩ := Option.ite_none_left_eq_some.mp h
  exact (Option.some.inj h).symm

lemma inv_start (hi : Inv s) (hf : Fits s.config.controlSocket) {result : StartResult}
    (hb : result.binds = true) (h : step C K s (.start result) = some t) : Inv t := by
  rw [start_eq h]
  simp only [hb, if_true]
  have hpath := sunPath_eq_iff.mpr hf
  refine ⟨?_, fun _ => rfl, fun _ => rfl, ?_⟩
  · intro path hp
    exact ⟨(Option.some.inj hp).symm.trans hpath, hf⟩
  · intro u hu
    rcases List.mem_append.mp hu with hu | hu
    · exact hi.unlinks u hu
    · obtain rfl := List.mem_singleton.mp hu
      exact congrArg some (hpath.trans (cStr_eq hf.2).symm)

lemma inv_stop (hi : Inv s) (hs : s.started = true) : Inv { s with
    listening := false
    unlinks := s.unlinks ++ [⟨cStr s.config.controlSocket, s.bound⟩] } := by
  refine ⟨hi.bound, hi.started, fun h => absurd h Bool.false_ne_true, ?_⟩
  intro u hu
  rcases List.mem_append.mp hu with hu | hu
  · exact hi.unlinks u hu
  · obtain rfl := List.mem_singleton.mp hu
    obtain ⟨path, hp⟩ := Option.isSome_iff_exists.mp (hi.started hs)
    obtain ⟨rfl, hf⟩ := hi.bound path hp
    rw [hp, cStr_eq hf.2]

lemma inv_config (hi : Inv s) {config : Config} {listening : Bool}
    (hl : listening = true → s.listening = true)
    (hc : s.bound.isSome → config.controlSocket = s.config.controlSocket) (crashed : Bool) :
    Inv { s with config, listening, crashed } := by
  refine ⟨?_, hi.started, fun h => hi.listening (hl h), hi.unlinks⟩
  intro path hp
  rw [hc (Option.isSome_of_eq_some hp)]
  exact hi.bound path hp

lemma inv_step (hi : Inv s) (hg : KeepsPath C s a) (h : step C K s a = some t) : Inv t := by
  have hstep := h
  rw [step.eq_def] at h
  split at h
  · cases h
  cases a with
  | start result => exact inv_start hi hg.1 hg.2 hstep
  | load path file =>
    obtain ⟨g, hp, hr⟩ := load_ends (C := C) (K := K) path file s.config
    have hc : s.bound.isSome → g.controlSocket = s.config.controlSocket := by
      intro hb
      rcases hp with rfl | ⟨root, kept, hroot, rfl⟩
      · rfl
      · rcases cleared_controlSocket path root s.config with hp | hp
        · exact hp
        · exact hg hb root hroot _ hp
    rcases hr with ⟨ok, hr⟩ | ⟨e, hr⟩
    · simp only [hr] at h
      exact Option.some.inj h ▸ inv_config hi id hc s.crashed
    · simp only [hr] at h
      exact Option.some.inj h ▸ inv_config hi (fun hl => absurd hl Bool.false_ne_true) hc true
  | stop =>
    obtain ⟨hs, h⟩ := Option.ite_none_right_eq_some.mp h
    exact Option.some.inj h ▸ inv_stop hi hs

lemma Inv.socketPath (hi : Inv s) : SocketPath s := by
  refine ⟨fun hl => ?_, hi.unlinks⟩
  obtain ⟨path, hp⟩ := Option.isSome_iff_exists.mp (hi.started (hi.listening hl))
  rw [hp, (hi.bound path hp).1]

lemma not_socketPath_of_unbound {result : StartResult} (hb : result.binds = false)
    (h : step C K s (.start result) = some t) : ¬ SocketPath t := by
  rw [start_eq h]
  simp only [hb, Bool.false_eq_true, if_false]
  intro hpath
  have hu := hpath.unlinks ⟨cStr s.config.controlSocket, none⟩
    (List.mem_append_right _ (List.mem_singleton_self _))
  cases hu

end Steps

theorem socket_path_kept (config : Config) (as : List Action) (t : State)
    (hrun : exec (step C K) { config } as = some t)
    (hguard : Guarded (step C K) (KeepsPath C) { config } as) : SocketPath t := by
  have hi : Inv { config } := ⟨by simp, by simp, by simp, by simp⟩
  exact (guarded_invariant (fun _ _ _ => inv_step) hi hguard hrun).socketPath

section Runs

def movedSocket : Bytes :=
  utf8 "\x7b\"control_socket\":\"/run/pf.sock\",\"devices\":[]\x7d"

def socketCodec : Codec :=
  .ofTable [(FailedReload.emptyObject, .object []),
    (movedSocket, .object [("control_socket", .string "/run/pf.sock"), ("devices", .array [])])]

theorem default_socket_kept : ∃ t, exec (step socketCodec inputEventCodes) {}
      [.start .listens, .load "config/pointerforce.json" (some FailedReload.emptyObject), .stop] =
        some t ∧ SocketPath t := by
  refine ⟨_, rfl, socket_path_kept socketCodec inputEventCodes {}
    [.start .listens, .load "config/pointerforce.json" (some FailedReload.emptyObject), .stop] _ rfl ?_⟩
  refine guarded_cons ⟨⟨by decide, by decide⟩, rfl⟩ rfl (guarded_cons ?_ rfl
    (guarded_cons trivial rfl trivial))
  intro _ root hroot path hp
  obtain rfl : .object [] = root := Option.some.inj hroot
  cases hp

theorem moved_socket_is_unlinked : ∃ t, exec (step socketCodec inputEventCodes) {}
      [.start .listens, .load "config/pointerforce.json" (some movedSocket), .stop] = some t ∧
    t.unlinks.getLast? = some ⟨utf8 "/run/pf.sock", some (utf8 "/tmp/pointerforce.sock")⟩ ∧
    ¬ SocketPath t := by
  refine ⟨_, rfl, by decide, ?_⟩
  intro h
  have hu := h.unlinks ⟨utf8 "/run/pf.sock", some (utf8 "/tmp/pointerforce.sock")⟩ (by decide)
  exact absurd hu (by decide)

end Runs

end PointerForce.Daemon.ControlSocket
