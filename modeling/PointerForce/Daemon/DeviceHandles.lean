import PointerForce.Foundations.Handles
import PointerForce.Foundations.Runs
import PointerForce.Foundations.Traces

/-! The descriptor and the libevdev context of a device, as the objects of the class open, move and
release them. -/

namespace PointerForce.Daemon.DeviceHandles

open Foundations.Runs Foundations.Traces Foundations.Handles

structure Device where
  fd : ℤ := -1
  -- the context that `dev_` points to
  dev : Option ℕ := none
  grabbed : Bool := false
  path : String := ""
  deriving DecidableEq, Repr

inductive Effect where
  | opened (f : ℕ)
  | created (n f : ℕ)
  | grabbed (n : ℕ)
  | ungrabbed (n : ℕ)
  | freed (n : ℕ)
  | closed (f : ℕ)
  deriving DecidableEq, Repr

structure Sys where
  fds : Pool := {}
  contexts : Pool := {}
  effects : List Effect := []

inductive Opening where
  -- `open` fails
  | noNode
  -- `libevdev_new_from_fd` fails, and leaves the pointer alone
  | noContext (fd : ℕ)
  | opened (fd context : ℕ)
  deriving DecidableEq, Repr

namespace Device

variable (d : Device) (k : Sys)

def handle : Option ℕ := if 0 ≤ d.fd then some d.fd.toNat else none

def openFd (fd : ℕ) : Device × Sys :=
  ({ d with fd },
    { k with fds := k.fds.acquire fd, effects := k.effects ++ [.opened k.fds.acquired] })

def newFromFd (context : ℕ) : Device × Sys :=
  ({ d with dev := some context },
    { k with
      contexts := k.contexts.acquire context
      effects := k.effects ++
        ((d.handle.bind k.fds.live).map (.created k.contexts.acquired)).toList })

def closeFd : Device × Sys :=
  match d.handle with
  | none => (d, k)
  | some fd => ({ d with fd := -1 },
      { k with fds := k.fds.release fd, effects := k.effects ++ ((k.fds.live fd).map .closed).toList })

def free : Device × Sys :=
  match d.dev with
  | none => (d, k)
  | some context => ({ d with dev := none },
      { k with
        contexts := k.contexts.release context
        effects := k.effects ++ ((k.contexts.live context).map .freed).toList })

def grab (ok : Bool) : Device × Sys :=
  if 0 ≤ d.fd ∧ ok = true then
    ({ d with grabbed := true },
      { k with effects := k.effects ++ ((d.dev.bind k.contexts.live).map .grabbed).toList })
  else (d, k)

def ungrab : Device × Sys :=
  if 0 ≤ d.fd ∧ d.grabbed = true then
    ({ d with grabbed := false },
      { k with effects := k.effects ++ ((d.dev.bind k.contexts.live).map .ungrabbed).toList })
  else (d, k)

def close : Device × Sys :=
  let (d, k) := d.ungrab k
  let (d, k) := d.free k
  let (d, k) := d.closeFd k
  ({ d with path := "" }, k)

def «open» (path : String) : Opening → Option (Device × Sys)
  | .noNode => some ({ d with fd := -1 }, k)
  | .noContext fd =>
    if k.fds.live fd = none then
      let (d, k) := d.openFd k fd
      some (d.closeFd k)
    else none
  | .opened fd context =>
    if k.fds.live fd = none ∧ k.contexts.live context = none then
      let (d, k) := d.openFd k fd
      let (d, k) := d.newFromFd k context
      some ({ d with path }, k)
    else none

end Device

structure State where
  objects : ℕ → Option Device := fun _ => none
  sys : Sys := {}

inductive Action where
  | construct (o : ℕ)
  | open (o : ℕ) (path : String) (outcome : Opening)
  | grab (o : ℕ) (ok : Bool)
  | ungrab (o : ℕ)
  | close (o : ℕ)
  | moveConstruct (o source : ℕ)
  | moveAssign (o source : ℕ)
  | destroy (o : ℕ)

def State.put (s : State) (o : ℕ) (r : Device × Sys) : State :=
  { objects := Function.update s.objects o (some r.1), sys := r.2 }

-- the moved-from path is left empty
def State.transfer (s : State) (o source : ℕ) (d : Device) : State :=
  { s with objects := Function.update (Function.update s.objects source (some {})) o (some d) }

def step (s : State) : Action → Option State
  | .construct o => if s.objects o = none then some (s.put o ({}, s.sys)) else none
  | .open o path outcome =>
    match s.objects o with
    | some d => if d.fd < 0 then (d.open s.sys path outcome).map (s.put o) else none
    | none => none
  | .grab o ok => (s.objects o).map fun d => s.put o (d.grab s.sys ok)
  | .ungrab o => (s.objects o).map fun d => s.put o (d.ungrab s.sys)
  | .close o => (s.objects o).map fun d => s.put o (d.close s.sys)
  | .moveConstruct o source =>
    match s.objects o, s.objects source with
    | none, some d => some (s.transfer o source d)
    | _, _ => none
  | .moveAssign o source =>
    match s.objects o, s.objects source with
    | some d, some d' =>
      if o = source then some s else some ((s.put o (d.close s.sys)).transfer o source d')
    | _, _ => none
  | .destroy o => (s.objects o).map fun d =>
      { objects := Function.update s.objects o none, sys := (d.close s.sys).2 }

def Ordered (pre : List Effect) : Effect → Prop
  | .freed n => Followed (.grabbed n) (.ungrabbed n) pre
  | .closed f => ∀ n, .created n f ∈ pre → .freed n ∈ pre
  | _ => True

structure Inv (fd dev : ℕ → Option ℕ) (grabbed : ℕ → Bool) (k : Sys) : Prop where
  fds : Owned k.fds fd
  contexts : Owned k.contexts dev
  ungrabbed : ∀ n, Followed (.grabbed n) (.ungrabbed n) k.effects ∨
    ∃ o, Holds k.contexts dev o n ∧ grabbed o = true
  freed : ∀ n f, .created n f ∈ k.effects → .freed n ∈ k.effects ∨
    ∃ o, Holds k.contexts dev o n ∧ Holds k.fds fd o f
  ordered : Always Ordered k.effects

section Resources

open Function (update)

variable {fd dev : ℕ → Option ℕ} {grabbed : ℕ → Bool} {k : Sys} {o source h c n f : ℕ}

lemma inv_start : Inv (fun _ => none) (fun _ => none) (fun _ => false) {} where
  fds := owned_start
  contexts := owned_start
  ungrabbed _ := .inl followed_nil
  freed _ _ h := absurd h List.not_mem_nil
  ordered := always_nil

lemma Inv.idle (hi : Inv fd dev grabbed k) (hfd : fd o = none) (hdev : dev o = none)
    (hg : grabbed o = false) :
    Inv (update fd o none) (update dev o none) (update grabbed o false) k := by
  rwa [Function.update_eq_self_iff.mpr hfd.symm, Function.update_eq_self_iff.mpr hdev.symm,
    Function.update_eq_self_iff.mpr hg.symm]

lemma Inv.freed_of_append (hi : Inv fd dev grabbed k) {e : Effect} (he : .created n f ≠ e)
    (hc : .created n f ∈ k.effects ++ [e]) : .freed n ∈ k.effects ++ [e] ∨
      ∃ o, Holds k.contexts dev o n ∧ Holds k.fds fd o f := by
  have hold : .created n f ∈ k.effects :=
    (List.mem_append.mp hc).resolve_right fun hnew => he (List.mem_singleton.mp hnew)
  exact (hi.freed n f hold).imp_left (List.mem_append_left _)

lemma Inv.opened (hi : Inv fd dev grabbed k) (hfree : k.fds.live h = none) (hfd : fd o = none) :
    Inv (update fd o (some h)) dev grabbed
      { k with fds := k.fds.acquire h, effects := k.effects ++ [.opened k.fds.acquired] } where
  fds := hi.fds.acquire hfree hfd
  contexts := hi.contexts
  ungrabbed n := (hi.ungrabbed n).imp_left fun hf => followed_append hf (by simp)
  freed n f hc := by
    rcases hi.freed_of_append (by simp) hc with hfreed | ⟨q, hq, hqf⟩
    · exact .inl hfreed
    · exact .inr ⟨q, hq, hqf.acquire hfree hfd⟩
  ordered := always_append.mpr ⟨hi.ordered, trivial⟩

lemma Inv.created (hi : Inv fd dev grabbed k) (hfree : k.contexts.live c = none) (hdev : dev o = none)
    (hfd : Holds k.fds fd o f) : Inv fd (update dev o (some c)) grabbed
      { k with contexts := k.contexts.acquire c
               effects := k.effects ++ [.created k.contexts.acquired f] } where
  fds := hi.fds
  contexts := hi.contexts.acquire hfree hdev
  ungrabbed n := (hi.ungrabbed n).imp (fun hf => followed_append hf (by simp))
    fun ⟨q, hq, hg⟩ => ⟨q, hq.acquire hfree hdev, hg⟩
  freed n f' hc := by
    rcases List.mem_append.mp hc with hold | hnew
    · rcases hi.freed n f' hold with hfreed | ⟨q, hq, hqf⟩
      · exact .inl (List.mem_append_left _ hfreed)
      · exact .inr ⟨q, hq.acquire hfree hdev, hqf⟩
    · obtain ⟨rfl, rfl⟩ := Effect.created.inj (List.mem_singleton.mp hnew)
      exact .inr ⟨o, holds_acquired, hfd⟩
  ordered := always_append.mpr ⟨hi.ordered, trivial⟩

lemma Inv.grab (hi : Inv fd dev grabbed k) (hdev : Holds k.contexts dev o n) :
    Inv fd dev (update grabbed o true) { k with effects := k.effects ++ [.grabbed n] } where
  fds := hi.fds
  contexts := hi.contexts
  ungrabbed m := by
    by_cases hm : n = m
    · exact .inr ⟨o, hm ▸ hdev, Function.update_self ..⟩
    · refine (hi.ungrabbed m).imp (fun hf => followed_append hf (by simpa using hm)) ?_
      rintro ⟨q, hq, hg⟩
      refine ⟨q, hq, ?_⟩
      rw [Function.update_apply]
      split
      · rfl
      · exact hg
  freed _ _ hc := hi.freed_of_append (by simp) hc
  ordered := always_append.mpr ⟨hi.ordered, trivial⟩

lemma Inv.ungrab (hi : Inv fd dev grabbed k) (hdev : Holds k.contexts dev o n) :
    Inv fd dev (update grabbed o false) { k with effects := k.effects ++ [.ungrabbed n] } where
  fds := hi.fds
  contexts := hi.contexts
  ungrabbed m := by
    by_cases hm : n = m
    · exact .inl (hm ▸ followed_append_self k.effects (by simp))
    · refine (hi.ungrabbed m).imp (fun hf => followed_append hf (by simp)) ?_
      rintro ⟨q, hq, hg⟩
      have hqo : q ≠ o := by
        rintro rfl
        obtain ⟨h, hh, hl⟩ := hq
        obtain ⟨h', hh', hl'⟩ := hdev
        obtain rfl := Option.some.inj (hh.symm.trans hh')
        exact hm (Option.some.inj (hl'.symm.trans hl))
      exact ⟨q, hq, (Function.update_of_ne hqo _ _).trans hg⟩
  freed _ _ hc := hi.freed_of_append (by simp) hc
  ordered := always_append.mpr ⟨hi.ordered, trivial⟩

lemma Inv.free (hi : Inv fd dev grabbed k) (hdev : dev o = some c) (hl : k.contexts.live c = some n)
    (hg : grabbed o = false) : Inv fd (update dev o none) grabbed
      { k with contexts := k.contexts.release c, effects := k.effects ++ [.freed n] } where
  fds := hi.fds
  contexts := hi.contexts.release hdev
  ungrabbed m := by
    refine (hi.ungrabbed m).imp (fun hf => followed_append hf (by simp)) ?_
    rintro ⟨q, hq, hgq⟩
    have hqo : q ≠ o := by
      rintro rfl
      rw [hg] at hgq
      cases hgq
    exact ⟨q, hq.release hi.contexts hdev hqo, hgq⟩
  freed m f hc := by
    rcases hi.freed_of_append (by simp) hc with hfreed | ⟨q, hq, hqf⟩
    · exact .inl hfreed
    · by_cases hqo : q = o
      · obtain ⟨c', hc', hl'⟩ := hq
        rw [hqo, hdev] at hc'
        obtain rfl := Option.some.inj hc'
        obtain rfl := Option.some.inj (hl.symm.trans hl')
        exact .inl (List.mem_append_right _ List.mem_cons_self)
      · exact .inr ⟨q, hq.release hi.contexts hdev hqo, hqf⟩
  ordered := by
    refine always_append.mpr ⟨hi.ordered, ?_⟩
    rcases hi.ungrabbed n with hf | ⟨q, hq, hgq⟩
    · exact hf
    · obtain rfl := hi.contexts.unique hq ⟨c, hdev, hl⟩
      rw [hg] at hgq
      cases hgq

lemma Inv.closed (hi : Inv fd dev grabbed k) (hfd : fd o = some h) (hl : k.fds.live h = some f)
    (hdev : dev o = none) : Inv (update fd o none) dev grabbed
      { k with fds := k.fds.release h, effects := k.effects ++ [.closed f] } where
  fds := hi.fds.release hfd
  contexts := hi.contexts
  ungrabbed n := (hi.ungrabbed n).imp_left fun hf => followed_append hf (by simp)
  freed n f' hc := by
    rcases hi.freed_of_append (by simp) hc with hfreed | ⟨q, hq, hqf⟩
    · exact .inl hfreed
    · exact .inr ⟨q, hq, hqf.release hi.fds hfd (hq.ne hdev)⟩
  ordered := by
    refine always_append.mpr ⟨hi.ordered, fun n hc => ?_⟩
    rcases hi.freed n f hc with hfreed | ⟨q, ⟨c, hc, -⟩, hqf⟩
    · exact hfreed
    · obtain rfl := hi.fds.unique hqf ⟨h, hfd, hl⟩
      rw [hdev] at hc
      cases hc

lemma Inv.handOver (hi : Inv fd dev grabbed k) (hfd : fd o = none) (hdev : dev o = none)
    (hne : o ≠ source) :
    Inv (update (update fd source none) o (fd source)) (update (update dev source none) o (dev source))
      (update (update grabbed source false) o (grabbed source)) k where
  fds := hi.fds.handOver hfd hne
  contexts := hi.contexts.handOver hdev hne
  ungrabbed n := by
    refine (hi.ungrabbed n).imp_right ?_
    rintro ⟨q, hq, hg⟩
    refine ⟨_, hq.handOver hdev, ?_⟩
    split
    case isTrue hqs => rw [Function.update_self, ← hqs, hg]
    case isFalse hqs =>
      rw [Function.update_of_ne (hq.ne hdev), Function.update_of_ne hqs, hg]
  freed n f hc := by
    refine (hi.freed n f hc).imp_right ?_
    rintro ⟨q, hq, hqf⟩
    exact ⟨_, hq.handOver hdev, hqf.handOver hfd⟩
  ordered := hi.ordered

end Resources

structure Sound (d : Device) : Prop where
  fd : -1 ≤ d.fd
  paired : d.dev.isSome ↔ 0 ≤ d.fd
  grabbed : d.grabbed = true → 0 ≤ d.fd

abbrev view {α : Type} (g : Device → Option α) (objects : ℕ → Option Device) : ℕ → Option α :=
  fun o => (objects o).bind g

abbrev grabs (objects : ℕ → Option Device) : ℕ → Bool := fun o => (objects o).any Device.grabbed

structure Good (s : State) : Prop where
  resources : Inv (view Device.handle s.objects) (view Device.dev s.objects) (grabs s.objects) s.sys
  sound : ∀ o d, s.objects o = some d → Sound d

section Objects

open Function (update)

variable {objects : ℕ → Option Device} {k : Sys} {o : ℕ} {d : Device}

lemma view_update {α : Type} (g : Device → Option α) (objects : ℕ → Option Device) (o : ℕ)
    (x : Option Device) : view g (update objects o x) = update (view g objects) o (x.bind g) := by
  funext q
  simp only [view, Function.update_apply]
  split <;> rfl

lemma grabs_update (objects : ℕ → Option Device) (o : ℕ) (x : Option Device) :
    grabs (update objects o x) = update (grabs objects) o (x.any Device.grabbed) := by
  funext q
  simp only [grabs, Function.update_apply]
  split <;> rfl

lemma Sound.handle_none (hd : Sound d) (hf : d.fd < 0) :
    d.handle = none ∧ d.dev = none ∧ d.grabbed = false ∧ d.fd = -1 := by
  have hneg : ¬ 0 ≤ d.fd := not_le.mpr hf
  refine ⟨if_neg hneg, ?_, ?_, ?_⟩
  · exact Option.not_isSome_iff_eq_none.mp (mt hd.paired.mp hneg)
  · exact Bool.eq_false_iff.mpr (mt hd.grabbed hneg)
  · exact le_antisymm (by omega) hd.fd

lemma Sound.handle_some (hd : Sound d) (hf : 0 ≤ d.fd) :
    d.handle = some d.fd.toNat ∧ ∃ c, d.dev = some c :=
  ⟨if_pos hf, Option.isSome_iff_exists.mp (hd.paired.mpr hf)⟩

lemma sound_default : Sound {} := ⟨le_refl _, by simp, by simp⟩

lemma close_default (hd : Sound d) (k : Sys) : (d.close k).1 = {} := by
  rcases lt_or_ge d.fd 0 with hf | hf
  · obtain ⟨hh, hdev, hg, hfd⟩ := hd.handle_none hf
    simp [Device.close, Device.ungrab, Device.free, Device.closeFd, hh, hdev, hg, hfd]
  · obtain ⟨hh, c, hdev⟩ := hd.handle_some hf
    cases hg : d.grabbed <;>
      simp [Device.close, Device.ungrab, Device.free, Device.closeFd, Device.handle, hdev, hg, hf]

lemma inv_ungrab (hi : Inv (view Device.handle objects) (view Device.dev objects) (grabs objects) k)
    (ho : objects o = some d) (hd : Sound d) : ∃ k', d.ungrab k = ({ d with grabbed := false }, k') ∧
      k'.fds = k.fds ∧ k'.contexts = k.contexts ∧
      Inv (view Device.handle objects) (view Device.dev objects) (update (grabs objects) o false) k' := by
  cases hg : d.grabbed with
  | false =>
    refine ⟨k, ?_, rfl, rfl, ?_⟩
    · have hsame : { d with grabbed := false } = d := by rw [← hg]
      simp [Device.ungrab, hg, hsame]
    · rw [Function.update_eq_self_iff.mpr]
      · exact hi
      · simp [grabs, ho, hg]
  | true =>
    have hf := hd.grabbed hg
    obtain ⟨-, c, hdev⟩ := hd.handle_some hf
    have hctx : view Device.dev objects o = some c := by simp [view, ho, hdev]
    obtain ⟨n, hn⟩ := hi.contexts.held_live o c hctx
    refine ⟨{ k with effects := k.effects ++ [.ungrabbed n] }, ?_, rfl, rfl,
      hi.ungrab ⟨c, hctx, hn⟩⟩
    simp [Device.ungrab, hg, hf, hdev, hn]

lemma inv_close (hi : Inv (view Device.handle objects) (view Device.dev objects) (grabs objects) k)
    (ho : objects o = some d) (hd : Sound d) :
    Inv (update (view Device.handle objects) o none) (update (view Device.dev objects) o none)
      (update (grabs objects) o false) (d.close k).2 := by
  obtain ⟨k', hu, hfds, hcontexts, hi'⟩ := inv_ungrab hi ho hd
  rcases lt_or_ge d.fd 0 with hf | hf
  · obtain ⟨hh, hdev, -, -⟩ := hd.handle_none hf
    have hk : (d.close k).2 = k' := by
      simp only [Device.handle] at hh
      simp [Device.close, hu, Device.free, hdev, Device.closeFd, Device.handle, hh]
    have hfd : view Device.handle objects o = none := by simp [view, ho, hh]
    have hctx : view Device.dev objects o = none := by simp [view, ho, hdev]
    rwa [hk, Function.update_eq_self_iff.mpr hfd.symm, Function.update_eq_self_iff.mpr hctx.symm]
  · obtain ⟨hh, c, hdev⟩ := hd.handle_some hf
    have hfd : view Device.handle objects o = some d.fd.toNat := by simp [view, ho, hh]
    have hctx : view Device.dev objects o = some c := by simp [view, ho, hdev]
    obtain ⟨f, hlf⟩ := hi'.fds.held_live o _ hfd
    obtain ⟨n, hln⟩ := hi'.contexts.held_live o _ hctx
    have hfree := hi'.free hctx hln (Function.update_self ..)
    have hclosed := hfree.closed hfd hlf (Function.update_self ..)
    have hk : (d.close k).2 = { k' with
        contexts := k'.contexts.release c
        fds := k'.fds.release d.fd.toNat
        effects := k'.effects ++ [.freed n] ++ [.closed f] } := by
      simp [Device.close, hu, Device.free, hdev, hln, Device.closeFd, Device.handle, hf, hlf]
    rw [hk]
    exact hclosed

lemma inv_open {path : String} {outcome : Opening} {r : Device × Sys}
    (hi : Inv (view Device.handle objects) (view Device.dev objects) (grabs objects) k)
    (ho : objects o = some d) (hd : Sound d) (hf : d.fd < 0) (h : d.open k path outcome = some r) :
    Inv (update (view Device.handle objects) o r.1.handle) (update (view Device.dev objects) o r.1.dev)
      (update (grabs objects) o r.1.grabbed) r.2 ∧ Sound r.1 ∧
        ((∀ fd context, outcome ≠ .opened fd context) → r.1 = d) := by
  obtain ⟨hh, hdev, hg, hfd⟩ := hd.handle_none hf
  have hfd' : view Device.handle objects o = none := by simp [view, ho, hh]
  have hctx : view Device.dev objects o = none := by simp [view, ho, hdev]
  have hgrab : grabs objects o = false := by simp [grabs, ho, hg]
  have hsame : { d with fd := -1 } = d := by rw [← hfd]
  have hgrabs : update (grabs objects) o d.grabbed = grabs objects := by
    rw [Function.update_eq_self_iff, hgrab, hg]
  have hdevs : update (view Device.dev objects) o d.dev = view Device.dev objects := by
    rw [Function.update_eq_self_iff, hctx, hdev]
  have hfds : update (view Device.handle objects) o none = view Device.handle objects := by
    rw [Function.update_eq_self_iff, hfd']
  cases outcome with
  | noNode =>
    obtain rfl := Option.some.inj h
    rw [hsame, hgrabs, hdevs, hh, hfds]
    exact ⟨hi, hd, fun _ => rfl⟩
  | noContext fd =>
    obtain ⟨hfree, -⟩ := Option.ite_none_right_eq_some.mp h
    have hopened := hi.opened hfree hfd'
    have hlive : (k.fds.acquire fd).live fd = some k.fds.acquired := Function.update_self ..
    have hclosed := hopened.closed (Function.update_self ..) hlive hctx
    rw [Function.update_idem, hfds] at hclosed
    have hr : d.open k path (.noContext fd) = some (d, { k with
        fds := (k.fds.acquire fd).release fd
        effects := k.effects ++ [.opened k.fds.acquired] ++ [.closed k.fds.acquired] }) := by
      simp [Device.open, hfree, Device.openFd, Device.closeFd, Device.handle, hlive, hsame]
    obtain rfl := Option.some.inj (hr.symm.trans h)
    rw [hgrabs, hdevs, hh, hfds]
    exact ⟨hclosed, hd, fun _ => rfl⟩
  | opened fd context =>
    obtain ⟨⟨hfree, hfree'⟩, -⟩ := Option.ite_none_right_eq_some.mp h
    have hcreated := (hi.opened hfree hfd').created hfree' hctx holds_acquired
    have hlive : (k.fds.acquire fd).live fd = some k.fds.acquired := Function.update_self ..
    have hr : d.open k path (.opened fd context) =
        some ({ d with fd, dev := some context, path }, { k with
          fds := k.fds.acquire fd
          contexts := k.contexts.acquire context
          effects := k.effects ++ [.opened k.fds.acquired] ++
            [.created k.contexts.acquired k.fds.acquired] }) := by
      simp [Device.open, hfree, hfree', Device.openFd, Device.newFromFd, Device.handle, hlive]
    obtain rfl := Option.some.inj (hr.symm.trans h)
    refine ⟨?_, ⟨by simp, by simp, by simp⟩, fun hno => absurd rfl (hno fd context)⟩
    rw [hgrabs]
    have hhandle : ({ d with fd, dev := some context, path } : Device).handle = some fd := by
      simp [Device.handle]
    rw [hhandle]
    exact hcreated

lemma inv_grab (hi : Inv (view Device.handle objects) (view Device.dev objects) (grabs objects) k)
    (ho : objects o = some d) (hd : Sound d) (ok : Bool) :
    Inv (update (view Device.handle objects) o (d.grab k ok).1.handle)
      (update (view Device.dev objects) o (d.grab k ok).1.dev)
      (update (grabs objects) o (d.grab k ok).1.grabbed) (d.grab k ok).2 ∧ Sound (d.grab k ok).1 := by
  have hfds : update (view Device.handle objects) o d.handle = view Device.handle objects := by
    rw [Function.update_eq_self_iff, view, ho, Option.bind_some]
  have hdevs : update (view Device.dev objects) o d.dev = view Device.dev objects := by
    rw [Function.update_eq_self_iff, view, ho, Option.bind_some]
  have hgrabs : update (grabs objects) o d.grabbed = grabs objects := by
    rw [Function.update_eq_self_iff, grabs, ho, Option.any_some]
  by_cases hc : 0 ≤ d.fd ∧ ok = true
  · obtain ⟨-, c, hdev⟩ := hd.handle_some hc.1
    have hctx : view Device.dev objects o = some c := by simp [view, ho, hdev]
    obtain ⟨n, hn⟩ := hi.contexts.held_live o c hctx
    have hr : d.grab k ok =
        ({ d with grabbed := true }, { k with effects := k.effects ++ [.grabbed n] }) := by
      simp [Device.grab, hc, hdev, hn]
    have hhandle : ({ d with grabbed := true } : Device).handle = d.handle := rfl
    rw [hr, hhandle, hfds, hdevs]
    exact ⟨hi.grab ⟨c, hctx, hn⟩, hd.fd, hd.paired, fun _ => hc.1⟩
  · have hr : d.grab k ok = (d, k) := if_neg hc
    rw [hr, hfds, hdevs, hgrabs]
    exact ⟨hi, hd⟩

end Objects

section Steps

variable {s t : State} {a : Action} {o source : ℕ} {d : Device} {r : Device × Sys}

lemma Good.put (hs : Good s) (hr : Sound r.1)
    (hi : Inv (Function.update (view Device.handle s.objects) o r.1.handle)
      (Function.update (view Device.dev s.objects) o r.1.dev)
      (Function.update (grabs s.objects) o r.1.grabbed) r.2) : Good (s.put o r) where
  resources := by
    simp only [State.put, view_update, grabs_update]
    exact hi
  sound q d hq := by
    rcases update_cases hq with ⟨-, he⟩ | ⟨-, hq⟩
    · obtain rfl := Option.some.inj he
      exact hr
    · exact hs.sound q d hq

lemma Good.transfer (hs : Good s) (hne : o ≠ source)
    (hfd : view Device.handle s.objects o = none) (hdev : view Device.dev s.objects o = none)
    (hd : s.objects source = some d) : Good (s.transfer o source d) where
  resources := by
    have hi := hs.resources.handOver hfd hdev hne
    simp only [State.transfer, view_update, grabs_update]
    have hsource : view Device.handle s.objects source = d.handle ∧
        view Device.dev s.objects source = d.dev ∧ grabs s.objects source = d.grabbed := by
      simp [view, grabs, hd]
    rwa [hsource.1, hsource.2.1, hsource.2.2] at hi
  sound q e hq := by
    rcases update_cases hq with ⟨-, he⟩ | ⟨-, hq⟩
    · obtain rfl := Option.some.inj he
      exact hs.sound source d hd
    · rcases update_cases hq with ⟨-, he⟩ | ⟨-, hq⟩
      · obtain rfl := Option.some.inj he
        exact sound_default
      · exact hs.sound q e hq

lemma Good.closed (hs : Good s) (hd : s.objects o = some d) : Good (s.put o (d.close s.sys)) := by
  have hi := inv_close hs.resources hd (hs.sound o d hd)
  have he := close_default (hs.sound o d hd) s.sys
  refine hs.put ?_ ?_
  · rw [he]
    exact sound_default
  · rwa [he]

lemma Good.step (hs : Good s) (h : step s a = some t) : Good t := by
  cases a with
  | construct o =>
    obtain ⟨ho, h⟩ := Option.ite_none_right_eq_some.mp h
    obtain rfl := Option.some.inj h
    refine hs.put sound_default (hs.resources.idle ?_ ?_ ?_)
    all_goals simp [view, grabs, ho]
  | «open» o path outcome =>
    simp only [DeviceHandles.step] at h
    split at h
    · next d hd =>
      obtain ⟨hf, h⟩ := Option.ite_none_right_eq_some.mp h
      obtain ⟨r, hr, rfl⟩ := Option.map_eq_some_iff.mp h
      obtain ⟨hi, hsound, -⟩ := inv_open hs.resources hd (hs.sound o d hd) hf hr
      exact hs.put hsound hi
    · cases h
  | grab o ok =>
    obtain ⟨d, hd, rfl⟩ := Option.map_eq_some_iff.mp h
    obtain ⟨hi, hsound⟩ := inv_grab hs.resources hd (hs.sound o d hd) ok
    exact hs.put hsound hi
  | ungrab o =>
    obtain ⟨d, hd, rfl⟩ := Option.map_eq_some_iff.mp h
    have hsound := hs.sound o d hd
    obtain ⟨k', hu, -, -, hi⟩ := inv_ungrab hs.resources hd hsound
    rw [hu]
    refine hs.put ⟨hsound.fd, hsound.paired, by simp⟩ ?_
    rw [Function.update_eq_self_iff.mpr, Function.update_eq_self_iff.mpr]
    · exact hi
    · simp [view, hd]
    · simp [view, hd, Device.handle]
  | close o =>
    obtain ⟨d, hd, rfl⟩ := Option.map_eq_some_iff.mp h
    exact hs.closed hd
  | moveConstruct o source =>
    simp only [DeviceHandles.step] at h
    split at h
    · next d ho hd =>
      obtain rfl := Option.some.inj h
      refine hs.transfer ?_ (by simp [view, ho]) (by simp [view, ho]) hd
      rintro rfl
      rw [ho] at hd
      cases hd
    · cases h
  | moveAssign o source =>
    simp only [DeviceHandles.step] at h
    split at h
    · next d d' ho hd =>
      split at h
      case isTrue =>
        obtain rfl := Option.some.inj h
        exact hs
      case isFalse hne =>
        obtain rfl := Option.some.inj h
        have he := close_default (hs.sound o d ho) s.sys
        have hempty : (s.put o (d.close s.sys)).objects o = some {} := by
          rw [← he]
          exact Function.update_self ..
        refine (hs.closed ho).transfer hne ?_ ?_ ((Function.update_of_ne (Ne.symm hne) _ _).trans hd)
        · simp [view, hempty, Device.handle]
        · simp [view, hempty]
    · cases h
  | destroy o =>
    obtain ⟨d, hd, rfl⟩ := Option.map_eq_some_iff.mp h
    refine ⟨?_, fun q e hq => ?_⟩
    · simp only [view_update, grabs_update]
      exact inv_close hs.resources hd (hs.sound o d hd)
    · rcases update_cases hq with ⟨-, he⟩ | ⟨-, hq⟩
      · cases he
      · exact hs.sound q e hq

end Steps

lemma good_start : Good {} := ⟨inv_start, nofun⟩

lemma open_fails {s t : State} {o : ℕ} {path : String} {outcome : Opening} (hs : Good s)
    (hfail : ∀ fd context, outcome ≠ .opened fd context)
    (h : step s (.open o path outcome) = some t) :
    ∃ d, t.objects o = some d ∧ d.fd = -1 ∧ d.dev = none ∧ d.grabbed = false := by
  simp only [step] at h
  split at h
  · next d hd =>
    obtain ⟨hf, h⟩ := Option.ite_none_right_eq_some.mp h
    obtain ⟨r, hr, rfl⟩ := Option.map_eq_some_iff.mp h
    obtain ⟨-, -, hsame⟩ := inv_open hs.resources hd (hs.sound o d hd) hf hr
    obtain ⟨-, hdev, hg, hfd⟩ := (hs.sound o d hd).handle_none hf
    exact ⟨r.1, Function.update_self .., by rw [hsame hfail]; exact ⟨hfd, hdev, hg⟩⟩
  · cases h

/-- Each descriptor and each context has one owner until it is released, once; what depends on
another resource is released before it; and an opening that fails leaves nothing behind. -/
theorem handles_owned_once (as : List Action) (t : State) (hrun : exec step {} as = some t) :
    (∀ n < t.sys.fds.acquired, HeldOrReleased t.sys.fds (view Device.handle t.objects) n) ∧
      (∀ n < t.sys.contexts.acquired,
        HeldOrReleased t.sys.contexts (view Device.dev t.objects) n) ∧
      t.sys.fds.stray = [] ∧ t.sys.contexts.stray = [] ∧
      (∀ o d, t.objects o = some d →
        (d.dev.isSome ↔ 0 ≤ d.fd) ∧ (d.grabbed = true → 0 ≤ d.fd)) ∧
      Always Ordered t.sys.effects ∧
      ∀ o path outcome u, (∀ fd context, outcome ≠ .opened fd context) →
        step t (.open o path outcome) = some u →
          ∃ d, u.objects o = some d ∧ d.fd = -1 ∧ d.dev = none ∧ d.grabbed = false := by
  have hg : Good t := exec_invariant (fun _ _ _ hs h => hs.step h) good_start hrun
  refine ⟨fun n => hg.resources.fds.heldOrReleased, fun n => hg.resources.contexts.heldOrReleased,
    hg.resources.fds.no_stray, hg.resources.contexts.no_stray, ?_, hg.resources.ordered, ?_⟩
  · exact fun o d hd => ⟨(hg.sound o d hd).paired, (hg.sound o d hd).grabbed⟩
  · exact fun o path outcome u => open_fails hg

def moveOverGrabbed : List Action :=
  [.construct 0, .open 0 "/dev/input/event3" (.opened 7 0), .grab 0 true, .construct 1,
    .open 1 "/dev/input/event4" (.noContext 8), .open 1 "/dev/input/event5" (.opened 8 1),
    .grab 1 true, .moveAssign 1 0, .moveAssign 1 1, .destroy 0, .destroy 1]

theorem moved_over_grabbed : ∃ t, exec step {} moveOverGrabbed = some t ∧
    t.sys.effects = [.opened 0, .created 0 0, .grabbed 0, .opened 1, .closed 1, .opened 2,
      .created 1 2, .grabbed 1, .ungrabbed 1, .freed 1, .closed 2, .ungrabbed 0, .freed 0,
      .closed 0] ∧
    ∀ n < t.sys.fds.acquired, HeldOrReleased t.sys.fds (view Device.handle t.objects) n := by
  obtain ⟨t, ht⟩ : ∃ t, exec step {} moveOverGrabbed = some t :=
    Option.isSome_iff_exists.mp (by decide)
  refine ⟨t, ht, ?_, (handles_owned_once moveOverGrabbed t ht).1⟩
  exact exec_all (p := fun t => t.sys.effects = [.opened 0, .created 0 0, .grabbed 0, .opened 1,
    .closed 1, .opened 2, .created 1 2, .grabbed 1, .ungrabbed 1, .freed 1, .closed 2, .ungrabbed 0,
    .freed 0, .closed 0]) (by decide) ht

end PointerForce.Daemon.DeviceHandles
