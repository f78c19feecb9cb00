import PointerForce.Daemon.ReaderThreads

/-! The entries of a running manager are the matching that `openAll` computes, and `get_info` reports
them. -/

namespace PointerForce.Daemon.ReaderThreads

open Foundations Foundations.Runs Foundations.Handles DeviceManager DeviceHandles ControlServer

variable (m : Machine) (devices : List DeviceConfig)

def place (s : State) (o : ℕ) : Option DeviceManager.Entry :=
  (s.entries o).bind fun e => ((s.handles.objects o).map Device.path).map fun path => ⟨e.cfg, path⟩

def listed (s : State) : List DeviceManager.Entry := s.ids.filterMap (place s)

def Main.holdsAll : Main → Bool
  | .opening _ _ | .closing _ | .clearing | .stopped => false
  | .opened | .starting _ | .running | .deactivating _ | .joining _ => true

def Scanned (s : State) : Prop :=
  (∀ paths matched, s.main = .opening paths matched →
    (paths.foldl (openNode m devices) (listed s, matched)).1 = openAll m devices) ∧
    (s.main.holdsAll → listed s = openAll m devices)

section Steps

open Function (update)

variable {m} {devices} {s t : State} {o : ℕ} {e : Entry} {d : Device}

lemma listed_congr (hids : t.ids = s.ids) (h : ∀ o, place t o = place s o) : listed t = listed s := by
  rw [listed, listed, hids]
  exact List.filterMap_congr fun o _ => h o

lemma listed_modify {f : Entry → Entry} (hids : t.ids = s.ids)
    (hentries : t.entries = update s.entries o ((s.entries o).map f)) (hf : ∀ e, (f e).cfg = e.cfg)
    (hpath : ∀ q, (t.handles.objects q).map Device.path = (s.handles.objects q).map Device.path) :
    listed t = listed s := by
  refine listed_congr hids fun q => ?_
  simp only [place, hentries, hpath]
  by_cases hq : q = o
  · subst hq
    rw [Function.update_self]
    cases s.entries q with
    | none => rfl
    | some e => simp [hf]
  · rw [Function.update_of_ne hq]

lemma paths_grab {h h' : DeviceHandles.State} {ok : Bool}
    (hs : DeviceHandles.step h (.grab o ok) = some h') (q : ℕ) :
    (h'.objects q).map Device.path = (h.objects q).map Device.path := by
  obtain ⟨d, d', hd, hobj, -, -, hpath⟩ := grab_objects hs
  rw [hobj, Function.update_apply]
  split
  · next hq => simp [hq, hd, hpath]
  · rfl

lemma listed_append {handles : DeviceHandles.State} {n : ℕ} {main : Main} (hfresh : n ∉ s.ids)
    (hobj : handles.objects = update s.handles.objects n (some d)) :
    listed { s with handles, ids := s.ids ++ [n], entries := update s.entries n (some e), main } =
      listed s ++ [⟨e.cfg, d.path⟩] := by
  rw [listed, listed, List.filterMap_append]
  congr 1
  · refine List.filterMap_congr fun q hq => ?_
    have hne : q ≠ n := fun h => hfresh (h ▸ hq)
    simp only [place, hobj, Function.update_of_ne hne]
  · simp [place, hobj]

lemma openNode_unmatched {entries : List DeviceManager.Entry} {matched : List Bool} {path : String}
    (hfind : findMatch (probeSysfs m path) path devices matched = none) :
    openNode m devices (entries, matched) path = (entries, matched) := by
  simp only [openNode, hfind]

lemma openNode_matched {entries : List DeviceManager.Entry} {matched : List Bool} {path : String}
    {i : ℕ} {cfg : DeviceConfig}
    (hfind : findMatch (probeSysfs m path) path devices matched = some i)
    (hcfg : devices[i]? = some cfg) : openNode m devices (entries, matched) path =
      if m.opens path then (entries ++ [⟨cfg, path⟩], matched.set i true) else (entries, matched) := by
  simp only [openNode, hfind, hcfg]

lemma scan_openNode {path : String} {paths : List String} {matched : List Bool} {outcome : Opening}
    (hi : Inv m devices s) (hm : s.main = .opening (path :: paths) matched)
    (h : scan m devices s path paths matched outcome = some t) : ∃ matched',
      t.main = .opening paths matched' ∧
        openNode m devices (listed s, matched) path = (listed t, matched') := by
  have htodo := hi.todo
  rw [hm] at htodo
  have hfresh : s.ids.length ∉ s.ids := fun hmem => lt_irrefl _ (htodo.1 _ hmem)
  rw [scan] at h
  split at h
  · next hfind =>
    obtain rfl := Option.some.inj h
    exact ⟨matched, rfl, openNode_unmatched hfind⟩
  · next i hfind =>
    split at h
    · cases h
    · next cfg hcfg =>
      rw [openNode_matched hfind hcfg]
      obtain ⟨hopens, h⟩ := Option.ite_none_right_eq_some.mp h
      obtain ⟨handles, hrun, h⟩ := Option.bind_eq_some_iff.mp h
      obtain ⟨hfree, d, hobj, hd⟩ := open_objects hrun
      have hopen : isOpen handles s.ids.length = decide (0 ≤ d.fd) := by
        rw [isOpen, hobj, Function.update_self, Option.any_some]
      rw [hopen] at h
      cases hs : succeeds outcome with
      | true =>
        simp only [hs, if_true] at hd
        rw [decide_eq_true hd.1, if_pos rfl] at h
        obtain rfl := Option.some.inj h
        refine ⟨_, rfl, ?_⟩
        rw [← hopens, hs, if_pos rfl, listed_append hfresh hobj, hd.2.2]
      | false =>
        simp only [hs, Bool.false_eq_true, if_false] at hd
        rw [decide_eq_false (by omega), if_neg Bool.false_ne_true] at h
        obtain ⟨handles', hdestroy, rfl⟩ := Option.map_eq_some_iff.mp h
        have hback : handles'.objects = s.handles.objects := by
          rw [destroy_objects hdestroy, hobj, Function.update_idem, Function.update_eq_self_iff, hfree]
        refine ⟨matched, rfl, ?_⟩
        rw [← hopens, hs, if_neg Bool.false_ne_true]
        have hlisted : listed { s with handles := handles', main := .opening paths matched } = listed s :=
          listed_congr rfl fun q => by simp only [place, hback]
        rw [hlisted]

lemma startEntry_listed {rest : List ℕ} {grabbed : Bool}
    (h : startEntry s o rest grabbed = some t) : listed t = listed s := by
  rw [startEntry] at h
  split at h
  · split at h
    · obtain ⟨handles, hs, rfl⟩ := Option.map_eq_some_iff.mp h
      exact listed_modify rfl rfl (fun _ => rfl) (paths_grab hs)
    · obtain rfl := Option.some.inj h
      exact listed_modify rfl rfl (fun _ => rfl) fun _ => rfl
  · obtain rfl := Option.some.inj h
    rfl

lemma joinEntry_listed {rest : List ℕ} (h : joinEntry s o rest = some t) : listed t = listed s := by
  rw [joinEntry] at h
  split at h
  · obtain rfl := Option.some.inj h
    exact listed_modify rfl rfl (fun _ => rfl) fun _ => rfl
  · obtain rfl := Option.some.inj h
    rfl
  · obtain rfl := Option.some.inj h
    rfl
  all_goals cases h

lemma scanned_of_listed (hs : Scanned m devices s) (hl : listed t = listed s)
    (hopening : ∀ paths matched, t.main ≠ .opening paths matched)
    (hholds : t.main.holdsAll → s.main.holdsAll) : Scanned m devices t :=
  ⟨fun paths matched h => absurd h (hopening paths matched), fun h => hl.trans (hs.2 (hholds h))⟩

lemma scanned_closed (hm : t.main.holdsAll = false)
    (hopening : ∀ paths matched, t.main ≠ .opening paths matched) : Scanned m devices t :=
  ⟨fun paths matched h => absurd h (hopening paths matched), fun h => by simp [hm] at h⟩

lemma scanned_mainStep {grabbed : Bool} (hs : Scanned m devices s) (h : mainStep s grabbed = some t) :
    Scanned m devices t := by
  rw [mainStep] at h
  cases hm : s.main <;> simp only [hm] at h
  case opening paths matched =>
    cases paths with
    | cons path paths => cases h
    | nil =>
      obtain rfl := Option.some.inj h
      exact ⟨fun _ _ h => (by cases h), fun _ => hs.1 [] matched hm⟩
  case opened =>
    obtain rfl := Option.some.inj h
    refine scanned_of_listed hs rfl (fun paths matched hmain => ?_) fun _ => by rw [hm]; rfl
    simp only at hmain
    split at hmain <;> cases hmain
  case starting rest =>
    cases rest with
    | nil =>
      obtain rfl := Option.some.inj h
      exact scanned_of_listed hs rfl (fun _ _ h => (by cases h)) fun _ => by rw [hm]; rfl
    | cons o rest =>
      have hmain := startEntry_main h
      exact scanned_of_listed hs (startEntry_listed h) (fun _ _ h => (by rw [hmain] at h; cases h))
        fun _ => by rw [hm]; rfl
  case running =>
    obtain ⟨-, h⟩ := Option.ite_none_left_eq_some.mp h
    obtain rfl := Option.some.inj h
    exact scanned_of_listed hs rfl (fun _ _ h => (by cases h)) fun _ => by rw [hm]; rfl
  case deactivating rest =>
    cases rest with
    | nil =>
      obtain rfl := Option.some.inj h
      exact scanned_of_listed hs rfl (fun _ _ h => (by cases h)) fun _ => by rw [hm]; rfl
    | cons o rest =>
      obtain rfl := Option.some.inj h
      exact scanned_of_listed hs (listed_modify rfl rfl (fun _ => rfl) fun _ => rfl)
        (fun _ _ h => (by cases h)) fun _ => by rw [hm]; rfl
  case joining rest =>
    cases rest with
    | nil =>
      obtain rfl := Option.some.inj h
      exact scanned_closed rfl fun _ _ h => (by cases h)
    | cons o rest =>
      have hmain := joinEntry_main h
      exact scanned_of_listed hs (joinEntry_listed h) (fun _ _ h => (by rw [hmain] at h; cases h))
        fun _ => by rw [hm]; rfl
  case closing rest =>
    cases rest with
    | nil =>
      obtain rfl := Option.some.inj h
      exact scanned_closed rfl fun _ _ h => (by cases h)
    | cons o rest =>
      obtain ⟨handles, -, rfl⟩ := Option.map_eq_some_iff.mp h
      exact scanned_closed rfl fun _ _ h => (by cases h)
  case clearing =>
    split at h
    · obtain rfl := Option.some.inj h
      exact scanned_closed rfl fun _ _ h => (by cases h)
    · have hmain := (clearEntry_main h).trans hm
      exact scanned_closed (by rw [hmain]; rfl) fun _ _ h => (by rw [hmain] at h; cases h)
  case stopped => cases h

lemma scanned_scan {path : String} {paths : List String} {matched : List Bool} {outcome : Opening}
    (hi : Inv m devices s) (hs : Scanned m devices s) (hm : s.main = .opening (path :: paths) matched)
    (h : scan m devices s path paths matched outcome = some t) : Scanned m devices t := by
  obtain ⟨matched', hmain, hnode⟩ := scan_openNode hi hm h
  refine ⟨fun paths' matched'' ht => ?_, fun ht => by rw [hmain] at ht; cases ht⟩
  obtain ⟨rfl, rfl⟩ := Main.opening.inj (hmain.symm.trans ht)
  rw [← hnode]
  exact hs.1 _ _ hm

lemma scanned_same (hs : Scanned m devices s) (hl : listed t = listed s) (hm : t.main = s.main) :
    Scanned m devices t := by
  rw [Scanned, hl, hm]
  exact hs

lemma readerStep_listed {status : ReadStatus} (h : readerStep s o status = some t) :
    listed t = listed s ∧ t.main = s.main := by
  rw [readerStep] at h
  split at h
  · cases h
  · split at h
    · cases h
    · cases h
    · obtain rfl := Option.some.inj h
      exact ⟨listed_modify rfl rfl (fun _ => rfl) fun _ => rfl, rfl⟩
    all_goals
      split at h
      · obtain rfl := Option.some.inj h
        exact ⟨rfl, rfl⟩
    · next e _ _ d _ =>
      obtain rfl := Option.some.inj h
      cases status <;> exact ⟨listed_modify rfl rfl (fun _ => rfl) fun _ => rfl, rfl⟩
    · obtain rfl := Option.some.inj h
      exact ⟨listed_modify rfl rfl (fun _ => rfl) fun _ => rfl, rfl⟩

lemma scanned_step {a : Action} (hi : Inv m devices s) (hs : Scanned m devices s)
    (h : step m devices s a = some t) : Scanned m devices t := by
  rw [step.eq_def, if_neg hi.not_crashed] at h
  cases a with
  | scan outcome =>
    simp only at h
    split at h
    · next hm => exact scanned_scan hi hs hm h
    · cases h
  | main grabbed => exact scanned_mainStep hs h
  | reader o status =>
    obtain ⟨hl, hm⟩ := readerStep_listed h
    exact scanned_same hs hl hm
  | terminate =>
    obtain rfl := Option.some.inj h
    exact scanned_same hs rfl rfl

lemma scanned_run {as : List Action} (h : exec (step m devices) (start m devices) as = some t) :
    Scanned m devices t := by
  have hstart : Scanned m devices (start m devices) := by
    refine ⟨fun paths matched h => ?_, fun h => (by cases h)⟩
    obtain ⟨rfl, rfl⟩ := Main.opening.inj h
    rfl
  refine (@exec_invariant _ _ (step m devices) _ _ _ (fun s => Inv m devices s ∧ Scanned m devices s)
    ?_ ⟨inv_start, hstart⟩ h).2
  rintro s a t ⟨hi, hs⟩ hstep
  exact ⟨inv_step hi hstep, scanned_step hi hs hstep⟩

lemma getInfo_places (s : State) (hwName : ℕ → Option String) :
    (getInfo hwName s).map (fun di => (di.id, di.path)) = (listed s).map DeviceManager.Entry.place := by
  rw [getInfo, listed, List.map_filterMap, List.map_filterMap]
  refine List.filterMap_congr fun o _ => ?_
  rw [place]
  cases s.entries o with
  | none => rfl
  | some e => cases s.handles.objects o <;> rfl

end Steps

theorem manager_holds_matching (as : List Action) (t : State)
    (hrun : exec (step m devices) (start m devices) as = some t) (hholds : t.main.holdsAll = true) :
    listed t = openAll m devices ∧ ∀ hwName,
      (getInfo hwName t).map (fun di => (di.id, di.path)) =
        (openAll m devices).map DeviceManager.Entry.place := by
  have hl := (scanned_run hrun).2 hholds
  exact ⟨hl, fun hwName => by rw [getInfo_places, hl]⟩

theorem pad_listed : ∃ t, exec (step padNode [padBlock]) (start padNode [padBlock]) padPressed = some t ∧
    (getInfo (fun _ => none) t).map (fun di => (di.id, di.path)) =
      (openAll padNode [padBlock]).map DeviceManager.Entry.place := by
  obtain ⟨t, ht⟩ : ∃ t, exec (step padNode [padBlock]) (start padNode [padBlock]) padPressed = some t :=
    Option.isSome_iff_exists.mp (by decide +kernel)
  have hholds : t.main.holdsAll = true :=
    exec_all (p := fun t => t.main.holdsAll = true) (by decide +kernel) ht
  exact ⟨t, ht, (manager_holds_matching padNode [padBlock] padPressed t ht hholds).2 _⟩

end PointerForce.Daemon.ReaderThreads
