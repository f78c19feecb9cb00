import PointerForce.Daemon.DeviceHandles
import PointerForce.Daemon.DeviceManager
import PointerForce.Daemon.EventLoop
import PointerForce.Daemon.ControlServer

/-! The life of a device manager: `open_all`, `start` and `stop` in the main thread, one reader thread
for each entry, and `get_info` in the threads of the control clients. -/

namespace PointerForce.Daemon.ReaderThreads

open Foundations Foundations.Runs Foundations.Handles DeviceManager DeviceHandles ControlServer EventLoop

inductive Thread where
  | none
  | head
  | reading
  | draining
  | exited
  deriving DecidableEq, Repr

/-- The device of an entry is the object of the same number. -/
structure Entry where
  cfg : DeviceConfig
  active : Bool := false
  thread : Thread := .none

/-- How far the main thread is; the lists are the entries that a loop has still to visit. -/
inductive Main where
  | opening (paths : List String) (matched : List Bool)
  | opened
  | starting (rest : List ℕ)
  | running
  | deactivating (rest : List ℕ)
  | joining (rest : List ℕ)
  | closing (rest : List ℕ)
  | clearing
  | stopped
  deriving DecidableEq, Repr

structure State where
  handles : DeviceHandles.State := {}
  ids : List ℕ := []
  entries : ℕ → Option Entry := fun _ => none
  main : Main
  -- `g_running`
  running : Bool := true
  pushed : List InputEvent := []
  crashed : Bool := false

inductive ReadStatus where
  | success (raw : RawEvent) (now : ℕ)
  | sync
  | again
  | error
  deriving DecidableEq, Repr

inductive Action where
  | scan (outcome : Opening)
  | main (grabbed : Bool)
  | reader (o : ℕ) (status : ReadStatus)
  | terminate

variable (m : Machine) (devices : List DeviceConfig)

def start : State := { main := .opening (candidates m) (devices.map fun _ => false) }

def succeeds : Opening → Bool
  | .opened _ _ => true
  | .noNode | .noContext _ => false

def isOpen (handles : DeviceHandles.State) (o : ℕ) : Bool :=
  (handles.objects o).any fun d => decide (0 ≤ d.fd)

def scan (s : State) (path : String) (paths : List String) (matched : List Bool)
    (outcome : Opening) : Option State :=
  match findMatch (probeSysfs m path) path devices matched with
  | none => some { s with main := .opening paths matched }
  | some i =>
    match devices[i]? with
    | none => none
    | some cfg =>
      let o := s.ids.length
      if succeeds outcome = m.opens path then
        (exec DeviceHandles.step s.handles [.construct o, .open o path outcome]).bind fun handles =>
          if isOpen handles o then
            some { s with
              handles
              ids := s.ids ++ [o]
              entries := Function.update s.entries o (some { cfg })
              main := .opening paths (matched.set i true) }
          else (DeviceHandles.step handles (.destroy o)).map fun handles =>
            { s with handles, main := .opening paths matched }
      else none

def State.modify (s : State) (o : ℕ) (f : Entry → Entry) : State :=
  { s with entries := Function.update s.entries o ((s.entries o).map f) }

def Entry.start (e : Entry) : Entry := { e with active := true, thread := .head }

def startEntry (s : State) (o : ℕ) (rest : List ℕ) (grabbed : Bool) : Option State :=
  if isOpen s.handles o then
    if (s.entries o).any fun e => e.cfg.grab then
      (DeviceHandles.step s.handles (.grab o grabbed)).map fun handles =>
        { s.modify o Entry.start with handles, main := .starting rest }
    else some { s.modify o Entry.start with main := .starting rest }
  else some { s with main := .starting rest }

def joinEntry (s : State) (o : ℕ) (rest : List ℕ) : Option State :=
  match (s.entries o).map Entry.thread with
  | some .exited => some { s.modify o fun e => { e with thread := .none } with main := .joining rest }
  | some .none | none => some { s with main := .joining rest }
  | some .head | some .reading | some .draining => none

/-- An entry that goes while its thread is joinable ends the process. -/
def clearEntry (s : State) (o : ℕ) (ids : List ℕ) : Option State :=
  if ((s.entries o).any fun e => decide (e.thread ≠ .none)) then some { s with crashed := true }
  else (DeviceHandles.step s.handles (.destroy o)).map fun handles =>
    { s with handles, ids, entries := Function.update s.entries o none }

/-- With no device the main thread leaves at once, and the destructor stops. -/
def mainStep (s : State) (grabbed : Bool) : Option State :=
  match s.main with
  | .opening [] _ => some { s with main := .opened }
  | .opening (_ :: _) _ => none
  | .opened => some { s with main := if s.ids = [] then .deactivating [] else .starting s.ids }
  | .starting [] => some { s with main := .running }
  | .starting (o :: rest) => startEntry s o rest grabbed
  | .running => if s.running then none else some { s with main := .deactivating s.ids }
  | .deactivating [] => some { s with main := .joining s.ids }
  | .deactivating (o :: rest) =>
    some { s.modify o fun e => { e with active := false } with main := .deactivating rest }
  | .joining [] => some { s with main := .closing s.ids }
  | .joining (o :: rest) => joinEntry s o rest
  | .closing [] => some { s with main := .clearing }
  | .closing (o :: rest) =>
    (DeviceHandles.step s.handles (.close o)).map fun handles =>
      { s with handles, main := .closing rest }
  | .clearing =>
    match s.ids with
    | [] => some { s with main := .stopped }
    | o :: ids => clearEntry s o ids
  | .stopped => none

def eventOf (e : Entry) (d : Device) (raw : RawEvent) (now : ℕ) : List InputEvent :=
  if raw.type ≠ evKey then []
  else [{ deviceId := e.cfg.id, devicePath := d.path, code := raw.code, value := raw.value,
          timestamp := now }]

def received (s : State) (o : ℕ) (e : Entry) (d : Device) : ReadStatus → State
  | .success raw now =>
    { s.modify o fun e => { e with thread := .head } with pushed := s.pushed ++ eventOf e d raw now }
  | .sync => s.modify o fun e => { e with thread := .draining }
  | .again => s.modify o fun e => { e with thread := .head }
  | .error => s.modify o fun e => { e with active := false, thread := .exited }

/-- `reader_fn`. A read of a device that has no context crashes. -/
def readerStep (s : State) (o : ℕ) (status : ReadStatus) : Option State :=
  match s.entries o with
  | none => none
  | some e =>
    match e.thread with
    | .none | .exited => none
    | .head => some (s.modify o fun e =>
        { e with thread := if e.active && s.running then .reading else .exited })
    | .reading =>
      match (s.handles.objects o).filter fun d => d.dev.isSome with
      | none => some { s with crashed := true }
      | some d => some (received s o e d status)
    | .draining =>
      match (s.handles.objects o).filter fun d => d.dev.isSome with
      | none => some { s with crashed := true }
      | some _ => some (s.modify o fun e =>
          { e with thread := if status = .sync then .draining else .head })

def step (s : State) (a : Action) : Option State :=
  if s.crashed then none
  else match a with
    | .scan outcome =>
      match s.main with
      | .opening (path :: paths) matched => scan m devices s path paths matched outcome
      | _ => none
    | .main grabbed => mainStep s grabbed
    | .reader o status => readerStep s o status
    | .terminate => some { s with running := false }

/-- `hwName` is the name that libevdev has for a context. -/
def getInfo (hwName : ℕ → Option String) (s : State) : List DeviceInfo :=
  s.ids.filterMap fun o =>
    match s.entries o, s.handles.objects o with
    | some e, some d => some
        { id := e.cfg.id
          path := d.path
          hwName := match d.dev with
            | none => "<no device>"
            | some c => (hwName c).getD "<unnamed>"
          active := e.active }
    | _, _ => none

def Origin (id path : String) : Prop :=
  ∃ dc ∈ devices, dc.id = id ∧ path ∈ candidates m ∧
    sysfsMatches (probeSysfs m path) path dc.criteria = true

def Opened (e : Entry) (d : Device) : Prop :=
  0 ≤ d.fd ∧ d.dev.isSome ∧ Origin m devices e.cfg.id d.path

def Main.keepsOpen (o : ℕ) : Main → Prop
  | .closing rest => o ∈ rest
  | .clearing | .stopped => False
  | _ => True

def Main.threadless (o : ℕ) : Main → Prop
  | .starting rest => o ∈ rest
  | .joining rest => o ∉ rest
  | .running | .deactivating _ => False
  | _ => True

def Main.inactive (o : ℕ) : Main → Prop
  | .starting rest => o ∈ rest
  | .deactivating rest => o ∉ rest
  | .running => False
  | _ => True

structure Fits (main : Main) (o : ℕ) (e : Entry) (d : Device) : Prop where
  opened : main.keepsOpen o → Opened m devices e d
  thread : main.threadless o → e.thread = .none
  active : main.inactive o → e.active = false

def Todo (ids : List ℕ) : Main → Prop
  | .opening paths _ => (∀ o ∈ ids, o < ids.length) ∧ ∀ path ∈ paths, path ∈ candidates m
  | .starting rest | .deactivating rest | .joining rest | .closing rest => rest ⊆ ids ∧ rest.Nodup
  | .stopped => ids = []
  | _ => True

structure Inv (s : State) : Prop where
  good : Good s.handles
  alive : s.crashed = false
  nodup : s.ids.Nodup
  entries : ∀ o, (s.entries o).isSome ↔ o ∈ s.ids
  objects : ∀ o, (s.handles.objects o).isSome ↔ o ∈ s.ids
  fits : ∀ o e d, s.entries o = some e → s.handles.objects o = some d → Fits m devices s.main o e d
  todo : Todo m s.ids s.main
  pushed : ∀ ev ∈ s.pushed, Origin m devices ev.deviceId ev.devicePath

section Handles

open Function (update)

variable {h h' : DeviceHandles.State} {o : ℕ} {path : String} {outcome : Opening}

lemma open_objects (hrun : exec DeviceHandles.step h [.construct o, .open o path outcome] = some h') :
    h.objects o = none ∧ ∃ d, h'.objects = update h.objects o (some d) ∧
      if succeeds outcome then 0 ≤ d.fd ∧ d.dev.isSome ∧ d.path = path else d.fd < 0 := by
  obtain ⟨u, hu, hrest⟩ := exec_cons.mp hrun
  obtain ⟨v, hv, hlast⟩ := exec_cons.mp hrest
  obtain rfl := Option.some.inj hlast
  obtain ⟨ho, hu⟩ := Option.ite_none_right_eq_some.mp hu
  obtain rfl := Option.some.inj hu
  have hconstructed : (h.put o ({}, h.sys)).objects o = some {} := Function.update_self ..
  simp only [DeviceHandles.step, hconstructed] at hv
  obtain ⟨-, hv⟩ := Option.ite_none_right_eq_some.mp hv
  obtain ⟨r, hr, rfl⟩ := Option.map_eq_some_iff.mp hv
  refine ⟨ho, r.1, Function.update_idem .., ?_⟩
  cases outcome with
  | noNode =>
    obtain rfl := Option.some.inj hr
    simp [succeeds]
  | noContext fd =>
    obtain ⟨-, hr⟩ := Option.ite_none_right_eq_some.mp hr
    obtain rfl := Option.some.inj hr
    simp [succeeds, Device.closeFd, Device.handle]
  | opened fd context =>
    obtain ⟨-, hr⟩ := Option.ite_none_right_eq_some.mp hr
    obtain rfl := Option.some.inj hr
    simp [succeeds]

lemma grab_objects {ok : Bool} (hs : DeviceHandles.step h (.grab o ok) = some h') :
    ∃ d d', h.objects o = some d ∧ h'.objects = update h.objects o (some d') ∧
      d'.fd = d.fd ∧ d'.dev = d.dev ∧ d'.path = d.path := by
  obtain ⟨d, hd, rfl⟩ := Option.map_eq_some_iff.mp hs
  refine ⟨d, _, hd, rfl, ?_⟩
  rw [Device.grab]
  split <;> exact ⟨rfl, rfl, rfl⟩

lemma close_objects (hs : DeviceHandles.step h (.close o) = some h') :
    ∃ d', h'.objects = update h.objects o (some d') := by
  obtain ⟨d, hd, rfl⟩ := Option.map_eq_some_iff.mp hs
  exact ⟨_, rfl⟩

lemma destroy_objects (hs : DeviceHandles.step h (.destroy o) = some h') :
    h'.objects = update h.objects o none := by
  obtain ⟨d, hd, rfl⟩ := Option.map_eq_some_iff.mp hs
  rfl

lemma good_exec {as : List DeviceHandles.Action} (hg : Good h)
    (hrun : exec DeviceHandles.step h as = some h') : Good h' :=
  exec_invariant (fun _ _ _ hs hstep => hs.step hstep) hg hrun

end Handles

section Steps

open Function (update)

variable {m} {devices} {s t : State} {o : ℕ} {e e' : Entry} {d d' : Device} {main : Main}

def Main.Keeps (old new : Main) (o : ℕ) : Prop :=
  (new.keepsOpen o → old.keepsOpen o) ∧ (new.threadless o → old.threadless o) ∧
    (new.inactive o → old.inactive o)

lemma Fits.of_keeps (hf : Fits m devices s.main o e d) (hk : s.main.Keeps main o) :
    Fits m devices main o e d :=
  ⟨fun h => hf.opened (hk.1 h), fun h => hf.thread (hk.2.1 h), fun h => hf.active (hk.2.2 h)⟩

lemma Inv.setMain (hi : Inv m devices s) (hk : ∀ o ∈ s.ids, s.main.Keeps main o)
    (htodo : Todo m s.ids main) : Inv m devices { s with main } := by
  refine ⟨hi.good, hi.alive, hi.nodup, hi.entries, hi.objects, fun o e d he hd => ?_, htodo, hi.pushed⟩
  exact (hi.fits o e d he hd).of_keeps (hk o ((hi.entries o).mp (by rw [he]; rfl)))

lemma Inv.found (hi : Inv m devices s) (ho : o ∈ s.ids) : ∃ e d, s.entries o = some e ∧
    s.handles.objects o = some d ∧ Fits m devices s.main o e d := by
  obtain ⟨e, he⟩ := Option.isSome_iff_exists.mp ((hi.entries o).mpr ho)
  obtain ⟨d, hd⟩ := Option.isSome_iff_exists.mp ((hi.objects o).mpr ho)
  exact ⟨e, d, he, hd, hi.fits o e d he hd⟩

lemma isSome_update {α : Type} {f : ℕ → Option α} {ids : List ℕ}
    (hf : ∀ q, (f q).isSome ↔ q ∈ ids) (ho : o ∈ ids) (x : α) (q : ℕ) :
    (update f o (some x) q).isSome ↔ q ∈ ids := by
  by_cases hq : q = o
  · subst hq
    simp [ho]
  · rw [Function.update_of_ne hq]
    exact hf q

lemma Inv.visit {handles : DeviceHandles.State} {pushed : List InputEvent} (hi : Inv m devices s)
    (ho : o ∈ s.ids) (hgood : Good handles)
    (hobjects : handles.objects = update s.handles.objects o (some d'))
    (hfits : Fits m devices main o e' d') (hk : ∀ q ∈ s.ids, q ≠ o → s.main.Keeps main q)
    (htodo : Todo m s.ids main) (hpushed : ∀ ev ∈ pushed, Origin m devices ev.deviceId ev.devicePath) :
    Inv m devices { s with handles, main, pushed, entries := update s.entries o (some e') } := by
  have hobj := isSome_update hi.objects ho d'
  rw [← hobjects] at hobj
  refine ⟨hgood, hi.alive, hi.nodup, isSome_update hi.entries ho e', hobj, fun q a b ha hb => ?_,
    htodo, hpushed⟩
  rw [hobjects] at hb
  rcases update_cases ha with ⟨rfl, hx⟩ | ⟨hq, ha⟩
  · obtain rfl := Option.some.inj hx
    rw [Function.update_self] at hb
    obtain rfl := Option.some.inj hb
    exact hfits
  · rw [Function.update_of_ne hq] at hb
    exact (hi.fits q a b ha hb).of_keeps (hk q ((hi.entries q).mp (by rw [ha]; rfl)) hq)

lemma modify_eq (he : s.entries o = some e) (f : Entry → Entry) :
    s.modify o f = { s with entries := update s.entries o (some (f e)) } := by
  rw [State.modify, he, Option.map_some]

lemma Inv.visitEntry (hi : Inv m devices s) {f : Entry → Entry} (ho : o ∈ s.ids)
    (hf : ∀ e d, s.entries o = some e → s.handles.objects o = some d →
      Fits m devices s.main o e d → Fits m devices main o (f e) d)
    (hk : ∀ q ∈ s.ids, q ≠ o → s.main.Keeps main q) (htodo : Todo m s.ids main) :
    Inv m devices { s.modify o f with main } := by
  obtain ⟨e, d, he, hd, hfits⟩ := hi.found ho
  rw [modify_eq he]
  have hsame : s.handles.objects = update s.handles.objects o (some d) :=
    (Function.update_eq_self_iff.mpr hd.symm).symm
  exact hi.visit ho hi.good hsame (hf e d he hd hfits) hk htodo hi.pushed

lemma keeps_tail {rest : List ℕ} {q : ℕ} (hq : q ≠ o) (h : q ∉ rest) : q ∉ o :: rest := by
  simp [hq, h]

lemma startEntry_main {rest : List ℕ} {grabbed : Bool} (h : startEntry s o rest grabbed = some t) :
    t.main = .starting rest := by
  rw [startEntry] at h
  split at h
  · split at h
    · obtain ⟨handles, -, rfl⟩ := Option.map_eq_some_iff.mp h
      rfl
    · obtain rfl := Option.some.inj h
      rfl
  · obtain rfl := Option.some.inj h
    rfl

lemma joinEntry_main {rest : List ℕ} (h : joinEntry s o rest = some t) :
    t.main = .joining rest := by
  rw [joinEntry] at h
  split at h
  case h_1 | h_2 | h_3 =>
    obtain rfl := Option.some.inj h
    rfl
  all_goals cases h

lemma clearEntry_main {ids : List ℕ} (h : clearEntry s o ids = some t) : t.main = s.main := by
  rw [clearEntry] at h
  split at h
  · obtain rfl := Option.some.inj h
    rfl
  · obtain ⟨handles, -, rfl⟩ := Option.map_eq_some_iff.mp h
    rfl

lemma inv_startEntry {rest : List ℕ} {grabbed : Bool} (hi : Inv m devices s)
    (hm : s.main = .starting (o :: rest)) (h : startEntry s o rest grabbed = some t) :
    Inv m devices t := by
  have htodo := hi.todo
  rw [hm] at htodo
  obtain ⟨hsub, hnodup⟩ := htodo
  obtain ⟨hmem, hrest⟩ := List.cons_subset.mp hsub
  obtain ⟨hnot, hnodup⟩ := List.nodup_cons.mp hnodup
  have hk : ∀ q, s.main.Keeps (.starting rest) q := fun q => by
    rw [hm]
    exact ⟨id, List.mem_cons_of_mem o, List.mem_cons_of_mem o⟩
  have hfits : ∀ e d d', d'.fd = d.fd → d'.dev = d.dev → d'.path = d.path →
      Fits m devices s.main o e d → Fits m devices (.starting rest) o e.start d' := by
    intro e d d' hfd hdev hpath hf
    rw [hm] at hf
    refine ⟨fun _ => ?_, fun h => absurd h hnot, fun h => absurd h hnot⟩
    rw [Opened, hfd, hdev, hpath]
    exact hf.opened trivial
  rw [startEntry] at h
  split at h
  · split at h
    · obtain ⟨handles, hs, rfl⟩ := Option.map_eq_some_iff.mp h
      obtain ⟨d, d', hd, hobj, hfd, hdev, hpath⟩ := grab_objects hs
      obtain ⟨e, d₀, he, hd₀, hf⟩ := hi.found hmem
      obtain rfl := Option.some.inj (hd.symm.trans hd₀)
      rw [modify_eq he]
      exact hi.visit hmem (hi.good.step hs) hobj (hfits e d d' hfd hdev hpath hf)
        (fun q _ _ => hk q) ⟨hrest, hnodup⟩ hi.pushed
    · obtain rfl := Option.some.inj h
      exact hi.visitEntry hmem (fun e d _ _ => hfits e d d rfl rfl rfl) (fun q _ _ => hk q)
        ⟨hrest, hnodup⟩
  · obtain rfl := Option.some.inj h
    exact hi.setMain (fun q _ => hk q) ⟨hrest, hnodup⟩

lemma inv_joinEntry {rest : List ℕ} (hi : Inv m devices s) (hm : s.main = .joining (o :: rest))
    (h : joinEntry s o rest = some t) : Inv m devices t := by
  have htodo := hi.todo
  rw [hm] at htodo
  obtain ⟨hsub, hnodup⟩ := htodo
  obtain ⟨hmem, hrest⟩ := List.cons_subset.mp hsub
  obtain ⟨hnot, hnodup⟩ := List.nodup_cons.mp hnodup
  have hk : ∀ q ∈ s.ids, q ≠ o → s.main.Keeps (.joining rest) q := fun q _ hq => by
    rw [hm]
    exact ⟨id, keeps_tail hq, id⟩
  obtain ⟨e, d, he, hd, hf⟩ := hi.found hmem
  rw [hm] at hf
  simp only [joinEntry, he, Option.map_some] at h
  cases ht : e.thread with
  | exited =>
    simp only [ht, Option.some.injEq] at h
    subst h
    refine hi.visitEntry hmem (fun a b ha hb hfits => ?_) hk ⟨hrest, hnodup⟩
    rw [hm] at hfits
    exact ⟨fun _ => hfits.opened trivial, fun _ => rfl, fun _ => hfits.active trivial⟩
  | none =>
    simp only [ht, Option.some.injEq] at h
    subst h
    have hid : s.modify o id = s := by
      rw [modify_eq he, id, ← he, Function.update_eq_self]
    have hv : Inv m devices { s.modify o id with main := .joining rest } := by
      refine hi.visitEntry hmem (fun a b ha hb hfits => ?_) hk ⟨hrest, hnodup⟩
      rw [hm] at hfits
      obtain rfl := Option.some.inj (he.symm.trans ha)
      exact ⟨fun _ => hfits.opened trivial, fun _ => ht, fun _ => hfits.active trivial⟩
    rwa [hid] at hv
  | _ =>
    simp only [ht] at h
    cases h

lemma inv_clearEntry {ids : List ℕ} (hi : Inv m devices s) (hm : s.main = .clearing)
    (hids : s.ids = o :: ids) (h : clearEntry s o ids = some t) : Inv m devices t := by
  have hnodup := hi.nodup
  rw [hids] at hnodup
  obtain ⟨hnot, hnodup⟩ := List.nodup_cons.mp hnodup
  obtain ⟨e, d, he, hd, hf⟩ := hi.found (hids ▸ List.mem_cons_self)
  rw [hm] at hf
  have hnone : e.thread = .none := hf.thread trivial
  simp only [clearEntry, he, Option.any_some, hnone, ne_eq, not_true_eq_false, decide_false,
    Bool.false_eq_true, if_false] at h
  obtain ⟨handles, hs, rfl⟩ := Option.map_eq_some_iff.mp h
  have hobj := destroy_objects hs
  have hleft : ∀ {α : Type} {f : ℕ → Option α}, (∀ q, (f q).isSome ↔ q ∈ s.ids) →
      ∀ q, (update f o none q).isSome ↔ q ∈ ids := by
    intro α f hf q
    by_cases hq : q = o
    · subst hq
      simp [hnot]
    · rw [Function.update_of_ne hq, hf q, hids, List.mem_cons]
      exact or_iff_right hq
  have hobjects := hleft hi.objects
  rw [← hobj] at hobjects
  refine ⟨hi.good.step hs, hi.alive, hnodup, hleft hi.entries, hobjects, fun q a b ha hb => ?_, ?_,
    hi.pushed⟩
  · rw [hobj] at hb
    rcases update_cases ha with ⟨-, hx⟩ | ⟨-, ha⟩
    · cases hx
    · rcases update_cases hb with ⟨-, hx⟩ | ⟨-, hb⟩
      · cases hx
      · exact hi.fits q a b ha hb
  · rw [hm]
    trivial

lemma inv_deactivate {rest : List ℕ} (hi : Inv m devices s) (hm : s.main = .deactivating (o :: rest)) :
    Inv m devices
      { s.modify o fun e => { e with active := false } with main := .deactivating rest } := by
  have htodo := hi.todo
  rw [hm] at htodo
  obtain ⟨hsub, hnodup⟩ := htodo
  obtain ⟨hmem, hrest⟩ := List.cons_subset.mp hsub
  refine hi.visitEntry hmem (fun e d _ _ hf => ?_) (fun q _ hq => ?_)
    ⟨hrest, (List.nodup_cons.mp hnodup).2⟩
  · rw [hm] at hf
    exact ⟨hf.opened, fun h => h.elim, fun _ => rfl⟩
  · rw [hm]
    exact ⟨id, id, keeps_tail hq⟩

lemma inv_close {rest : List ℕ} {handles : DeviceHandles.State} (hi : Inv m devices s)
    (hm : s.main = .closing (o :: rest))
    (hs : DeviceHandles.step s.handles (.close o) = some handles) :
    Inv m devices { s with handles, main := .closing rest } := by
  have htodo := hi.todo
  rw [hm] at htodo
  obtain ⟨hsub, hnodup⟩ := htodo
  obtain ⟨hmem, hrest⟩ := List.cons_subset.mp hsub
  obtain ⟨hnot, hnodup⟩ := List.nodup_cons.mp hnodup
  obtain ⟨d', hobj⟩ := close_objects hs
  obtain ⟨e, d, he, hd, hf⟩ := hi.found hmem
  rw [hm] at hf
  have hfits : Fits m devices (.closing rest) o e d' :=
    ⟨fun h => absurd h hnot, fun _ => hf.thread trivial, fun _ => hf.active trivial⟩
  have hv := hi.visit hmem (hi.good.step hs) hobj hfits (fun q _ _ => ?_) ⟨hrest, hnodup⟩ hi.pushed
  · rwa [Function.update_eq_self_iff.mpr he.symm] at hv
  · rw [hm]
    exact ⟨List.mem_cons_of_mem o, id, id⟩

lemma inv_mainStep {grabbed : Bool} (hi : Inv m devices s) (h : mainStep s grabbed = some t) :
    Inv m devices t := by
  rw [mainStep] at h
  cases hm : s.main <;> simp only [hm] at h
  case opening paths matched =>
    cases paths with
    | cons path paths => cases h
    | nil =>
      obtain rfl := Option.some.inj h
      refine hi.setMain (fun o _ => ?_) trivial
      rw [hm]
      exact ⟨id, id, id⟩
  case opened =>
    obtain rfl := Option.some.inj h
    refine hi.setMain (fun o ho => ?_) ?_
    · rw [hm]
      split <;> exact ⟨fun _ => trivial, fun _ => trivial, fun _ => trivial⟩
    · split
      · exact ⟨List.nil_subset _, List.nodup_nil⟩
      · exact ⟨List.Subset.refl _, hi.nodup⟩
  case starting rest =>
    cases rest with
    | nil =>
      obtain rfl := Option.some.inj h
      refine hi.setMain (fun o _ => ?_) trivial
      rw [hm]
      exact ⟨id, False.elim, False.elim⟩
    | cons o rest => exact inv_startEntry hi hm h
  case running =>
    obtain ⟨-, h⟩ := Option.ite_none_left_eq_some.mp h
    obtain rfl := Option.some.inj h
    refine hi.setMain (fun o ho => ?_) ⟨List.Subset.refl _, hi.nodup⟩
    rw [hm]
    exact ⟨id, id, fun hn => hn ho⟩
  case deactivating rest =>
    cases rest with
    | nil =>
      obtain rfl := Option.some.inj h
      refine hi.setMain (fun o ho => ?_) ⟨List.Subset.refl _, hi.nodup⟩
      rw [hm]
      exact ⟨id, fun hn => hn ho, fun _ => List.not_mem_nil⟩
    | cons o rest =>
      obtain rfl := Option.some.inj h
      exact inv_deactivate hi hm
  case joining rest =>
    cases rest with
    | nil =>
      obtain rfl := Option.some.inj h
      refine hi.setMain (fun o ho => ?_) ⟨List.Subset.refl _, hi.nodup⟩
      rw [hm]
      exact ⟨fun _ => trivial, fun _ => List.not_mem_nil, id⟩
    | cons o rest => exact inv_joinEntry hi hm h
  case closing rest =>
    cases rest with
    | nil =>
      obtain rfl := Option.some.inj h
      refine hi.setMain (fun o _ => ?_) trivial
      rw [hm]
      exact ⟨False.elim, id, id⟩
    | cons o rest =>
      obtain ⟨handles, hs, rfl⟩ := Option.map_eq_some_iff.mp h
      exact inv_close hi hm hs
  case clearing =>
    split at h
    · next hids =>
      obtain rfl := Option.some.inj h
      have htodo : Todo m s.ids .stopped := hids
      refine hi.setMain (fun o _ => ?_) htodo
      rw [hm]
      exact ⟨id, id, id⟩
    · next hids => exact inv_clearEntry hi hm hids h
  case stopped => cases h

lemma findMatch_spec {path : String} {matched : List Bool} {i : ℕ} {cfg : DeviceConfig}
    (h : findMatch (probeSysfs m path) path devices matched = some i)
    (hcfg : devices[i]? = some cfg) :
    cfg ∈ devices ∧ sysfsMatches (probeSysfs m path) path cfg.criteria = true := by
  obtain ⟨hi, hmatch, -⟩ := List.findIdx?_eq_some_iff_getElem.mp h
  obtain ⟨hlt, rfl⟩ := List.getElem?_eq_some_iff.mp hcfg
  simp only [List.getElem_zip, Bool.and_eq_true] at hmatch
  exact ⟨List.getElem_mem hlt, hmatch.2⟩

lemma isSome_append {α : Type} {f : ℕ → Option α} {ids : List ℕ}
    (hf : ∀ q, (f q).isSome ↔ q ∈ ids) (o : ℕ) (x : α) (q : ℕ) :
    (update f o (some x) q).isSome ↔ q ∈ ids ++ [o] := by
  by_cases hq : q = o
  · subst hq
    simp
  · rw [Function.update_of_ne hq, hf q, List.mem_append, List.mem_singleton]
    exact (or_iff_left hq).symm

lemma Inv.append {handles : DeviceHandles.State} {paths : List String} {matched matched' : List Bool}
    (hi : Inv m devices s) (hm : s.main = .opening paths matched) (hgood : Good handles)
    (hobj : handles.objects = update s.handles.objects s.ids.length (some d))
    (hfits : Opened m devices e d ∧ e.thread = .none ∧ e.active = false) (rest : List String)
    (hrest : ∀ p ∈ rest, p ∈ candidates m) :
    Inv m devices { s with
      handles
      ids := s.ids ++ [s.ids.length]
      entries := update s.entries s.ids.length (some e)
      main := .opening rest matched' } := by
  have htodo := hi.todo
  rw [hm] at htodo
  have hfresh : s.ids.length ∉ s.ids := fun hmem => lt_irrefl _ (htodo.1 _ hmem)
  have hobjects := isSome_append hi.objects s.ids.length d
  rw [← hobj] at hobjects
  refine ⟨hgood, hi.alive, ?_, isSome_append hi.entries s.ids.length e, hobjects, fun q a b ha hb => ?_,
    ⟨fun q hq => ?_, hrest⟩, hi.pushed⟩
  · exact List.nodup_append.mpr ⟨hi.nodup, List.nodup_singleton _, by
      rintro q hq r hr rfl
      exact hfresh (List.mem_singleton.mp hr ▸ hq)⟩
  · rw [hobj] at hb
    rcases update_cases ha with ⟨rfl, hx⟩ | ⟨hq, ha⟩
    · obtain rfl := Option.some.inj hx
      rw [Function.update_self] at hb
      obtain rfl := Option.some.inj hb
      exact ⟨fun _ => hfits.1, fun _ => hfits.2.1, fun _ => hfits.2.2⟩
    · rw [Function.update_of_ne hq] at hb
      refine (hi.fits q a b ha hb).of_keeps ?_
      rw [hm]
      exact ⟨id, id, id⟩
  · rw [List.length_append, List.length_singleton]
    rcases List.mem_append.mp hq with hq | hq
    · exact (htodo.1 q hq).trans (Nat.lt_succ_self _)
    · exact (List.mem_singleton.mp hq).trans_lt (Nat.lt_succ_self _)

lemma inv_scan {path : String} {paths : List String} {matched : List Bool} {outcome : Opening}
    (hi : Inv m devices s) (hm : s.main = .opening (path :: paths) matched)
    (h : scan m devices s path paths matched outcome = some t) : Inv m devices t := by
  have htodo := hi.todo
  rw [hm] at htodo
  obtain ⟨hbelow, hpaths⟩ := htodo
  have hrest : ∀ p ∈ paths, p ∈ candidates m := fun p hp => hpaths p (List.mem_cons_of_mem path hp)
  have hk : ∀ matched o, s.main.Keeps (.opening paths matched) o := fun matched o => by
    rw [hm]
    exact ⟨id, id, id⟩
  rw [scan] at h
  split at h
  · obtain rfl := Option.some.inj h
    exact hi.setMain (fun o _ => hk matched o) ⟨hbelow, hrest⟩
  · next i hfind =>
    split at h
    · cases h
    · next cfg hcfg =>
      obtain ⟨-, h⟩ := Option.ite_none_right_eq_some.mp h
      obtain ⟨handles, hrun, h⟩ := Option.bind_eq_some_iff.mp h
      obtain ⟨hfree, d, hobj, hd⟩ := open_objects hrun
      have hgood := good_exec hi.good hrun
      split at h
      · next ho =>
        obtain rfl := Option.some.inj h
        rw [isOpen, hobj, Function.update_self, Option.any_some, decide_eq_true_eq] at ho
        refine hi.append hm hgood hobj ⟨?_, rfl, rfl⟩ paths hrest
        split at hd
        · obtain ⟨hmem, hmatch⟩ := findMatch_spec hfind hcfg
          exact ⟨ho, hd.2.1, cfg, hmem, rfl, hd.2.2 ▸ hpaths path List.mem_cons_self,
            hd.2.2 ▸ hmatch⟩
        · omega
      · obtain ⟨handles', hs, rfl⟩ := Option.map_eq_some_iff.mp h
        have hback : handles'.objects = s.handles.objects := by
          rw [destroy_objects hs, hobj, Function.update_idem, Function.update_eq_self_iff, hfree]
        have hi' : Inv m devices { s with handles := handles' } :=
          ⟨hgood.step hs, hi.alive, hi.nodup, hi.entries, by rw [hback]; exact hi.objects,
            fun o e d he hd => hi.fits o e d he (hback ▸ hd), hi.todo, hi.pushed⟩
        exact hi'.setMain (fun o _ => hk matched o) ⟨hbelow, hrest⟩

lemma Fits.opened_of_thread (hf : Fits m devices main o e d) (ht : e.thread ≠ .none) :
    Opened m devices e d ∧ ¬ main.threadless o := by
  have hnot : ¬ main.threadless o := fun h => ht (hf.thread h)
  refine ⟨hf.opened ?_, hnot⟩
  cases main <;> simp_all [Main.threadless, Main.keepsOpen]

lemma Inv.read_entry (hi : Inv m devices s) (he : s.entries o = some e) : o ∈ s.ids ∧
    ∃ d, s.handles.objects o = some d ∧ Fits m devices s.main o e d ∧ (e.thread ≠ .none →
      (s.handles.objects o).filter (fun d => d.dev.isSome) = some d) := by
  have ho : o ∈ s.ids := (hi.entries o).mp (by rw [he]; rfl)
  obtain ⟨e', d, he', hd, hf⟩ := hi.found ho
  obtain rfl := Option.some.inj (he.symm.trans he')
  refine ⟨ho, d, hd, hf, fun ht => ?_⟩
  rw [hd]
  exact Option.filter_some_pos (hf.opened_of_thread ht).1.2.1

lemma Inv.reader (hi : Inv m devices s) (he : s.entries o = some e) (ht : e.thread ≠ .none)
    {f : Entry → Entry} (hid : (f e).cfg = e.cfg) (hactive : (f e).active = true → e.active = true) :
    Inv m devices (s.modify o f) := by
  have ho : o ∈ s.ids := (hi.entries o).mp (by rw [he]; rfl)
  have hv : Inv m devices { s.modify o f with main := s.main } := by
    refine hi.visitEntry ho (fun a d ha hd hf => ?_) (fun q _ _ => ⟨id, id, id⟩) hi.todo
    obtain rfl := Option.some.inj (he.symm.trans ha)
    obtain ⟨hopened, hnot⟩ := hf.opened_of_thread ht
    refine ⟨fun _ => ?_, fun h => absurd h hnot, fun h => Bool.eq_false_iff.mpr fun hnew => ?_⟩
    · rw [Opened, hid]
      exact hopened
    · exact Bool.false_ne_true ((hf.active h).symm.trans (hactive hnew))
  exact hv

lemma eventOf_origin {raw : RawEvent} {now : ℕ} (hd : Opened m devices e d) :
    ∀ ev ∈ eventOf e d raw now, Origin m devices ev.deviceId ev.devicePath := by
  intro ev hev
  rw [eventOf] at hev
  split at hev
  · cases hev
  · obtain rfl := List.mem_singleton.mp hev
    exact hd.2.2

lemma Inv.push (hi : Inv m devices s) {evs : List InputEvent}
    (hevs : ∀ ev ∈ evs, Origin m devices ev.deviceId ev.devicePath) :
    Inv m devices { s with pushed := s.pushed ++ evs } :=
  ⟨hi.good, hi.alive, hi.nodup, hi.entries, hi.objects, hi.fits, hi.todo, fun ev hev =>
    (List.mem_append.mp hev).elim (hi.pushed ev) (hevs ev)⟩

lemma inv_received (hi : Inv m devices s) (he : s.entries o = some e) (ht : e.thread ≠ .none)
    (hd : Opened m devices e d) (status : ReadStatus) : Inv m devices (received s o e d status) := by
  cases status with
  | success raw now =>
    have hpush := hi.push (@eventOf_origin _ _ _ _ raw now hd)
    exact hpush.reader he ht rfl id
  | sync => exact hi.reader he ht rfl id
  | again => exact hi.reader he ht rfl id
  | error => exact hi.reader he ht rfl fun h => (Bool.false_ne_true h).elim

lemma inv_readerStep {status : ReadStatus} (hi : Inv m devices s)
    (h : readerStep s o status = some t) : Inv m devices t := by
  rw [readerStep] at h
  cases he : s.entries o with
  | none =>
    rw [he] at h
    cases h
  | some e =>
    obtain ⟨-, d, -, hf, hdev⟩ := hi.read_entry he
    simp only [he] at h
    cases ht : e.thread <;> simp only [ht] at h
    case head =>
      obtain rfl := Option.some.inj h
      exact hi.reader he (by rw [ht]; decide) rfl id
    case reading =>
      have hne : e.thread ≠ .none := by rw [ht]; decide
      rw [hdev hne] at h
      obtain rfl := Option.some.inj h
      exact inv_received hi he hne (hf.opened_of_thread hne).1 status
    case draining =>
      have hne : e.thread ≠ .none := by rw [ht]; decide
      rw [hdev hne] at h
      obtain rfl := Option.some.inj h
      exact hi.reader he hne rfl id
    all_goals cases h

lemma Inv.not_crashed (hi : Inv m devices s) : ¬ s.crashed = true := by
  rw [hi.alive]
  exact Bool.false_ne_true

lemma inv_step {a : Action} (hi : Inv m devices s) (h : step m devices s a = some t) :
    Inv m devices t := by
  rw [step.eq_def, if_neg hi.not_crashed] at h
  cases a with
  | scan outcome =>
    simp only at h
    split at h
    · next hm => exact inv_scan hi hm h
    · cases h
  | main grabbed => exact inv_mainStep hi h
  | reader o status => exact inv_readerStep hi h
  | terminate =>
    obtain rfl := Option.some.inj h
    exact ⟨hi.good, hi.alive, hi.nodup, hi.entries, hi.objects, hi.fits, hi.todo, hi.pushed⟩

lemma inv_start : Inv m devices (start m devices) := by
  refine ⟨good_start, rfl, List.nodup_nil, ?_, ?_, ?_, ⟨?_, fun _ h => h⟩, ?_⟩ <;> simp [start]

lemma inv_run {as : List Action} (h : exec (step m devices) (start m devices) as = some t) :
    Inv m devices t := exec_invariant (fun _ _ _ hi hstep => inv_step hi hstep) inv_start h

end Steps

section Reports

variable {m devices} {s : State}

lemma getInfo_active (hi : Inv m devices s) (hwName : ℕ → Option String) {di : DeviceInfo}
    (hdi : di ∈ getInfo hwName s) (ha : di.active = true) : Origin m devices di.id di.path := by
  obtain ⟨o, -, hrow⟩ := List.mem_filterMap.mp hdi
  split at hrow
  · next e d he hd =>
    obtain rfl := Option.some.inj hrow
    have hf := hi.fits o e d he hd
    refine (hf.opened ?_).2.2
    have hnot : ¬ s.main.inactive o := fun h => Bool.false_ne_true ((hf.active h).symm.trans ha)
    revert hnot
    cases s.main <;> simp [Main.inactive, Main.keepsOpen]
  · cases hrow

end Reports

/-- Whatever the main thread is doing: a reader only ever reads from an open device, no entry goes while
its thread is joinable, and what `get_info` calls active and what reaches the queue has the id of a
block that matches the node it comes from. A `get_info` that overlaps the closing of the devices is not
in the model. -/
theorem readers_read_open_devices (as : List Action) (t : State)
    (hrun : exec (step m devices) (start m devices) as = some t) :
    t.crashed = false ∧
      (∀ o e, t.entries o = some e → e.thread ≠ .none →
        ∃ d, t.handles.objects o = some d ∧ 0 ≤ d.fd ∧ d.dev.isSome) ∧
      (∀ hwName, ∀ di ∈ getInfo hwName t, di.active = true → Origin m devices di.id di.path) ∧
      ∀ ev ∈ t.pushed, Origin m devices ev.deviceId ev.devicePath := by
  have hi := inv_run hrun
  refine ⟨hi.alive, fun o e he ht => ?_, fun hwName di hdi => getInfo_active hi hwName hdi, hi.pushed⟩
  obtain ⟨e', d, he', hd, hf⟩ := hi.found ((hi.entries o).mp (by rw [he]; rfl))
  obtain rfl := Option.some.inj (he.symm.trans he')
  obtain ⟨hfd, hdev, -⟩ := (hf.opened_of_thread ht).1
  exact ⟨d, hd, hfd, hdev⟩

def padNode : Machine where
  listing := ["mouse0", "event3"]
  sysfs path := if path = "/sys/class/input/event3/device/name" then some "Macro Pad\n" else none
  opens _ := true

def padBlock : DeviceConfig := { id := "macro_pad", criteria := { nameContains := "Macro" }, grab := true }

def padPressed : List Action :=
  [.scan (.opened 7 0), .main true, .main true, .main true, .main true, .reader 0 .again,
    .reader 0 (.success ⟨1, 30, 1⟩ 7)]

theorem pad_reader_reads : ∃ t, exec (step padNode [padBlock]) (start padNode [padBlock]) padPressed = some t ∧
    t.pushed = [⟨"macro_pad", "/dev/input/event3", 30, 1, 7⟩] ∧
    ∀ ev ∈ t.pushed, Origin padNode [padBlock] ev.deviceId ev.devicePath := by
  obtain ⟨t, ht⟩ : ∃ t, exec (step padNode [padBlock]) (start padNode [padBlock]) padPressed = some t :=
    Option.isSome_iff_exists.mp (by decide +kernel)
  obtain ⟨-, -, -, horigin⟩ := readers_read_open_devices padNode [padBlock] padPressed t ht
  refine ⟨t, ht, ?_, horigin⟩
  exact exec_all (p := fun t => t.pushed = [⟨"macro_pad", "/dev/input/event3", 30, 1, 7⟩])
    (by decide +kernel) ht

theorem stop_releases_all (as : List Action) (t : State)
    (hrun : exec (step m devices) (start m devices) as = some t) (hstopped : t.main = .stopped) :
    (∀ n < t.handles.sys.fds.acquired, t.handles.sys.fds.released.count n = 1) ∧
      (∀ n < t.handles.sys.contexts.acquired, t.handles.sys.contexts.released.count n = 1) ∧
      ∀ n, Traces.Followed (.grabbed n) (.ungrabbed n) t.handles.sys.effects := by
  have hi := inv_run hrun
  have hids : t.ids = [] := by
    have htodo := hi.todo
    rwa [hstopped] at htodo
  have hnone : ∀ o, t.handles.objects o = none := fun o => by
    have hiff := hi.objects o
    rw [hids] at hiff
    exact Option.not_isSome_iff_eq_none.mp fun h => List.not_mem_nil (hiff.mp h)
  have hview : ∀ {α : Type} (g : Device → Option α) o, view g t.handles.objects o = none :=
    fun g o => by rw [view, hnone o, Option.bind_none]
  refine ⟨fun n hn => ?_, fun n hn => ?_, fun n => ?_⟩
  · rcases hi.good.resources.fds.heldOrReleased hn with ⟨⟨o, ⟨h, hh, -⟩, -⟩, -⟩ | ⟨-, hcount⟩
    · rw [hview] at hh
      cases hh
    · exact hcount
  · rcases hi.good.resources.contexts.heldOrReleased hn with ⟨⟨o, ⟨h, hh, -⟩, -⟩, -⟩ | ⟨-, hcount⟩
    · rw [hview] at hh
      cases hh
    · exact hcount
  · rcases hi.good.resources.ungrabbed n with h | ⟨o, ⟨h, hh, -⟩, -⟩
    · exact h
    · rw [hview] at hh
      cases hh

def padStopped : List Action :=
  padPressed ++ [.terminate, .main true, .main true, .reader 0 .again, .main true, .main true,
    .main true, .main true, .main true, .main true, .main true]

theorem pad_released : ∃ t, exec (step padNode [padBlock]) (start padNode [padBlock]) padStopped = some t ∧
    t.handles.sys.fds.acquired = 1 ∧ t.handles.sys.fds.released.count 0 = 1 := by
  obtain ⟨t, ht⟩ : ∃ t, exec (step padNode [padBlock]) (start padNode [padBlock]) padStopped = some t :=
    Option.isSome_iff_exists.mp (by decide +kernel)
  have hstopped : t.main = .stopped :=
    exec_all (p := fun t => t.main = .stopped) (by decide +kernel) ht
  have hacquired : t.handles.sys.fds.acquired = 1 :=
    exec_all (p := fun t => t.handles.sys.fds.acquired = 1) (by decide +kernel) ht
  obtain ⟨hreleased, -⟩ := stop_releases_all padNode [padBlock] padStopped t ht hstopped
  exact ⟨t, ht, hacquired, (hreleased 0 (by simp [hacquired]))⟩

end PointerForce.Daemon.ReaderThreads
