import PointerForce.Daemon.ReaderThreads

/-! `stop` returns: once `g_running` is false the readers exit by themselves, and the main thread gets
through its joins. -/

namespace PointerForce.Daemon.ReaderThreads

open Foundations Foundations.Runs DeviceManager DeviceHandles

def Thread.fuel : Thread → ℕ
  | .none | .exited => 0
  | .head => 1
  | .reading | .draining => 2

def Main.fuel (n : ℕ) : Main → ℕ
  | .opening paths _ => 6 * (n + paths.length) + 11 + paths.length
  | .opened => 6 * n + 10
  | .starting rest => 4 * n + 9 + 2 * rest.length
  | .running => 4 * n + 8
  | .deactivating rest => 3 * n + 6 + rest.length
  | .joining rest => 2 * n + 4 + rest.length
  | .closing rest => n + 2 + rest.length
  | .clearing => n + 1
  | .stopped => 0

def threadFuel (e : Option Entry) : ℕ := (e.map fun e => e.thread.fuel).getD 0

def State.fuel (s : State) : ℕ :=
  s.main.fuel s.ids.length + ∑ o ∈ s.ids.toFinset, threadFuel (s.entries o)

def Action.own : Action → Bool
  | .terminate => false
  | _ => true

def Action.resync : Action → Bool
  | .reader _ status => status = .sync
  | _ => false

variable (m : Machine) (devices : List DeviceConfig)

structure Stopping (s : State) : Prop where
  inv : Inv m devices s
  running : s.running = false

section Steps

open Function (update)

variable {m} {devices} {s t : State} {o : ℕ} {e : Entry}

lemma modify_fuel_eq {f : Entry → Entry} (hids : t.ids = s.ids) (ho : o ∈ s.ids)
    (he : s.entries o = some e) (hentries : t.entries = update s.entries o ((s.entries o).map f)) :
    t.fuel + (s.main.fuel s.ids.length + e.thread.fuel) =
      s.fuel + (t.main.fuel s.ids.length + (f e).thread.fuel) := by
  have hsum := sum_update (List.mem_toFinset.mpr ho) (threadFuel ∘ s.entries)
    (threadFuel ((s.entries o).map f))
  rw [← Function.comp_update, ← hentries] at hsum
  have hold : threadFuel (s.entries o) = e.thread.fuel := by simp [threadFuel, he]
  have hnew : threadFuel ((s.entries o).map f) = (f e).thread.fuel := by simp [threadFuel, he]
  simp only [Function.comp_apply, hold, hnew] at hsum
  simp only [State.fuel, hids]
  omega

lemma modify_fuel {f : Entry → Entry} (hids : t.ids = s.ids) (ho : o ∈ s.ids)
    (he : s.entries o = some e) (hentries : t.entries = update s.entries o ((s.entries o).map f))
    (hlt : t.main.fuel s.ids.length + (f e).thread.fuel < s.main.fuel s.ids.length + e.thread.fuel) :
    t.fuel < s.fuel := by
  have heq := modify_fuel_eq hids ho he hentries
  omega

lemma startEntry_fuel {rest : List ℕ} {grabbed : Bool} (hi : Inv m devices s)
    (hm : s.main = .starting (o :: rest)) (h : startEntry s o rest grabbed = some t) :
    t.fuel < s.fuel ∧ t.running = s.running := by
  have htodo := hi.todo
  rw [hm] at htodo
  have hmem := htodo.1 List.mem_cons_self
  obtain ⟨e, d, he, -, hf⟩ := hi.found hmem
  have hnone : e.thread = .none := hf.thread (by rw [hm]; exact List.mem_cons_self)
  have hstarted : ∀ u : State, u.ids = s.ids → u.main = .starting rest →
      u.entries = update s.entries o ((s.entries o).map Entry.start) → u.fuel < s.fuel := by
    intro u hids hmain hentries
    refine modify_fuel hids hmem he hentries ?_
    simp only [hmain, hm, hnone, Main.fuel, Thread.fuel, Entry.start, List.length_cons]
    omega
  rw [startEntry] at h
  split at h
  · split at h
    · obtain ⟨handles, -, rfl⟩ := Option.map_eq_some_iff.mp h
      exact ⟨hstarted _ rfl rfl rfl, rfl⟩
    · obtain rfl := Option.some.inj h
      exact ⟨hstarted _ rfl rfl rfl, rfl⟩
  · obtain rfl := Option.some.inj h
    refine ⟨?_, rfl⟩
    simp only [State.fuel, hm, Main.fuel, List.length_cons]
    omega

lemma joinEntry_fuel {rest : List ℕ} (hi : Inv m devices s) (hm : s.main = .joining (o :: rest))
    (h : joinEntry s o rest = some t) : t.fuel < s.fuel ∧ t.running = s.running := by
  have htodo := hi.todo
  rw [hm] at htodo
  have hmem := htodo.1 List.mem_cons_self
  obtain ⟨e, d, he, -, -⟩ := hi.found hmem
  simp only [joinEntry, he, Option.map_some] at h
  cases ht : e.thread with
  | exited =>
    simp only [ht, Option.some.injEq] at h
    subst h
    refine ⟨modify_fuel rfl hmem he rfl ?_, rfl⟩
    simp [hm, ht, Main.fuel, Thread.fuel]
  | none =>
    simp only [ht, Option.some.injEq] at h
    subst h
    refine ⟨?_, rfl⟩
    simp only [State.fuel, hm, Main.fuel, List.length_cons]
    omega
  | _ =>
    simp only [ht] at h
    cases h

lemma deactivate_fuel {rest : List ℕ} (hi : Inv m devices s) (hm : s.main = .deactivating (o :: rest)) :
    State.fuel { s.modify o fun e => { e with active := false } with main := .deactivating rest } <
      s.fuel := by
  have htodo := hi.todo
  rw [hm] at htodo
  have hmem := htodo.1 List.mem_cons_self
  obtain ⟨e, d, he, -, -⟩ := hi.found hmem
  refine modify_fuel rfl hmem he rfl ?_
  simp [hm, Main.fuel]

lemma clearEntry_fuel {ids : List ℕ} (hi : Inv m devices s) (hm : s.main = .clearing)
    (hids : s.ids = o :: ids) (h : clearEntry s o ids = some t) :
    t.fuel < s.fuel ∧ t.running = s.running := by
  obtain ⟨e, d, he, -, hf⟩ := hi.found (hids ▸ List.mem_cons_self)
  rw [hm] at hf
  have hnone : e.thread = .none := hf.thread trivial
  simp only [clearEntry, he, Option.any_some, hnone, ne_eq, not_true_eq_false, decide_false,
    Bool.false_eq_true, if_false] at h
  obtain ⟨handles, -, rfl⟩ := Option.map_eq_some_iff.mp h
  refine ⟨?_, rfl⟩
  have hle : ∑ q ∈ ids.toFinset, threadFuel (update s.entries o none q) ≤
      ∑ q ∈ s.ids.toFinset, threadFuel (s.entries q) := by
    refine (Finset.sum_le_sum fun q _ => ?_).trans
      (Finset.sum_le_sum_of_subset fun q hq => ?_)
    · rw [Function.update_apply]
      split
      · exact Nat.zero_le _
      · exact le_rfl
    · rw [hids]
      exact List.mem_toFinset.mpr (List.mem_cons_of_mem o (List.mem_toFinset.mp hq))
  simp only [State.fuel, hm, Main.fuel, hids, List.length_cons] at hle ⊢
  omega

lemma mainStep_fuel {grabbed : Bool} (hi : Inv m devices s) (h : mainStep s grabbed = some t) :
    t.fuel < s.fuel ∧ t.running = s.running := by
  rw [mainStep] at h
  cases hm : s.main <;> simp only [hm] at h
  case opening paths matched =>
    cases paths with
    | nil =>
      obtain rfl := Option.some.inj h
      refine ⟨?_, rfl⟩
      simp only [State.fuel, hm, Main.fuel, List.length_nil]
      omega
    | cons path paths => cases h
  case opened =>
    obtain rfl := Option.some.inj h
    refine ⟨?_, rfl⟩
    simp only [State.fuel, hm]
    split <;> simp only [Main.fuel, List.length_nil] <;> omega
  case starting rest =>
    cases rest with
    | nil =>
      obtain rfl := Option.some.inj h
      simp [State.fuel, hm, Main.fuel]
    | cons o rest => exact startEntry_fuel hi hm h
  case running =>
    obtain ⟨-, h⟩ := Option.ite_none_left_eq_some.mp h
    obtain rfl := Option.some.inj h
    refine ⟨?_, rfl⟩
    simp only [State.fuel, hm, Main.fuel]
    omega
  case deactivating rest =>
    cases rest with
    | nil =>
      obtain rfl := Option.some.inj h
      refine ⟨?_, rfl⟩
      simp only [State.fuel, hm, Main.fuel, List.length_nil]
      omega
    | cons o rest =>
      obtain rfl := Option.some.inj h
      exact ⟨deactivate_fuel hi hm, rfl⟩
  case joining rest =>
    cases rest with
    | nil =>
      obtain rfl := Option.some.inj h
      refine ⟨?_, rfl⟩
      simp only [State.fuel, hm, Main.fuel, List.length_nil]
      omega
    | cons o rest => exact joinEntry_fuel hi hm h
  case closing rest =>
    cases rest with
    | nil =>
      obtain rfl := Option.some.inj h
      refine ⟨?_, rfl⟩
      simp only [State.fuel, hm, Main.fuel, List.length_nil]
      omega
    | cons o rest =>
      obtain ⟨handles, -, rfl⟩ := Option.map_eq_some_iff.mp h
      refine ⟨?_, rfl⟩
      simp only [State.fuel, hm, Main.fuel, List.length_cons]
      omega
  case clearing =>
    split at h
    · next hids =>
      obtain rfl := Option.some.inj h
      refine ⟨?_, rfl⟩
      simp only [State.fuel, hm, Main.fuel, hids]
      omega
    · next hids => exact clearEntry_fuel hi hm hids h
  case stopped => cases h

lemma readerStep_fuel {status : ReadStatus} (hi : Inv m devices s) (hr : s.running = false)
    (h : readerStep s o status = some t) :
    t.fuel ≤ s.fuel ∧ (status ≠ .sync → t.fuel < s.fuel) ∧ t.running = s.running := by
  rw [readerStep] at h
  cases he : s.entries o with
  | none =>
    rw [he] at h
    cases h
  | some e =>
    obtain ⟨ho, d, -, -, hdev⟩ := hi.read_entry he
    have hmodify : ∀ (f : Entry → Entry) (u : State) (thread : Thread), u.ids = s.ids →
        u.main = s.main → u.entries = update s.entries o ((s.entries o).map f) →
        (f e).thread = thread → u.fuel + e.thread.fuel = s.fuel + thread.fuel := by
      rintro f u _ hids hmain hentries rfl
      have heq := modify_fuel_eq hids ho he hentries
      rw [hmain] at heq
      omega
    simp only [he] at h
    cases ht : e.thread <;> simp only [ht] at h hmodify
    case head =>
      obtain rfl := Option.some.inj h
      have heq := hmodify
        (fun e => { e with thread := if e.active && s.running then .reading else .exited })
        (s.modify o _) .exited rfl rfl rfl (by simp [hr])
      simp only [Thread.fuel] at heq
      exact ⟨by omega, fun _ => by omega, rfl⟩
    case reading =>
      rw [hdev (by rw [ht]; decide)] at h
      obtain rfl := Option.some.inj h
      cases status with
      | sync =>
        have heq := hmodify _ (received s o e d .sync) .draining rfl rfl rfl rfl
        simp only [Thread.fuel] at heq
        exact ⟨by omega, fun hsync => absurd rfl hsync, rfl⟩
      | success raw now =>
        have heq := hmodify _ (received s o e d (.success raw now)) .head rfl rfl rfl rfl
        simp only [Thread.fuel] at heq
        exact ⟨by omega, fun _ => by omega, rfl⟩
      | again =>
        have heq := hmodify _ (received s o e d .again) .head rfl rfl rfl rfl
        simp only [Thread.fuel] at heq
        exact ⟨by omega, fun _ => by omega, rfl⟩
      | error =>
        have heq := hmodify _ (received s o e d .error) .exited rfl rfl rfl rfl
        simp only [Thread.fuel] at heq
        exact ⟨by omega, fun _ => by omega, rfl⟩
    case draining =>
      rw [hdev (by rw [ht]; decide)] at h
      obtain rfl := Option.some.inj h
      have hdrained := hmodify
        (fun e => { e with thread := if status = .sync then .draining else .head })
        (s.modify o fun e => { e with thread := if status = .sync then .draining else .head })
      by_cases hsync : status = .sync
      · have heq := hdrained .draining rfl rfl rfl (if_pos hsync)
        simp only [Thread.fuel] at heq
        exact ⟨by omega, fun hn => absurd hsync hn, rfl⟩
      · have heq := hdrained .head rfl rfl rfl (if_neg hsync)
        simp only [Thread.fuel] at heq
        exact ⟨by omega, fun _ => by omega, rfl⟩
    all_goals cases h

lemma threadFuel_append {ids : List ℕ} (ho : o ∉ ids) (entries : ℕ → Option Entry)
    (cfg : DeviceConfig) :
    ∑ q ∈ (ids ++ [o]).toFinset, threadFuel (update entries o (some { cfg }) q) =
      ∑ q ∈ ids.toFinset, threadFuel (entries q) := by
  have hset : (ids ++ [o]).toFinset = insert o ids.toFinset := by
    ext q
    simp
  have hold : ∀ q ∈ ids.toFinset,
      threadFuel (update entries o (some { cfg }) q) = threadFuel (entries q) := by
    intro q hq
    rw [Function.update_of_ne]
    rintro rfl
    exact ho (List.mem_toFinset.mp hq)
  rw [hset, Finset.sum_insert (by simpa using ho), Function.update_self, Finset.sum_congr rfl hold]
  exact Nat.zero_add _

lemma scan_fuel {path : String} {paths : List String} {matched : List Bool} {outcome : Opening}
    (hi : Inv m devices s) (hm : s.main = .opening (path :: paths) matched)
    (h : scan m devices s path paths matched outcome = some t) :
    t.fuel < s.fuel ∧ t.running = s.running := by
  have htodo := hi.todo
  rw [hm] at htodo
  have hstays : ∀ u : State, u.ids = s.ids → u.entries = s.entries →
      u.main = .opening paths matched → u.fuel < s.fuel := by
    intro u hids hentries hmain
    simp only [State.fuel, hids, hentries, hmain, hm, Main.fuel, List.length_cons]
    omega
  rw [scan] at h
  split at h
  · obtain rfl := Option.some.inj h
    exact ⟨hstays _ rfl rfl rfl, rfl⟩
  · split at h
    · cases h
    · next cfg _ =>
      obtain ⟨-, h⟩ := Option.ite_none_right_eq_some.mp h
      obtain ⟨handles, -, h⟩ := Option.bind_eq_some_iff.mp h
      split at h
      · obtain rfl := Option.some.inj h
        refine ⟨?_, rfl⟩
        have hnew : s.ids.length ∉ s.ids := fun hmem => absurd (htodo.1 _ hmem) (Nat.lt_irrefl _)
        simp only [State.fuel, hm, Main.fuel, List.length_append, List.length_cons, List.length_nil]
        rw [threadFuel_append hnew]
        omega
      · obtain ⟨handles', -, rfl⟩ := Option.map_eq_some_iff.mp h
        exact ⟨hstays _ rfl rfl rfl, rfl⟩

lemma exists_opening (hg : Good s.handles) (hnew : s.handles.objects o = none) (path : String)
    (ok : Bool) : ∃ outcome handles, succeeds outcome = ok ∧
      exec DeviceHandles.step s.handles [.construct o, .open o path outcome] = some handles := by
  obtain ⟨fd, hfd⟩ := hg.resources.fds.exists_free
  obtain ⟨context, hcontext⟩ := hg.resources.contexts.exists_free
  have hopen : ∀ outcome, (Device.open {} s.handles.sys path outcome).isSome →
      ∃ handles, exec DeviceHandles.step s.handles [.construct o, .open o path outcome] =
        some handles := by
    intro outcome hsome
    obtain ⟨r, hr⟩ := Option.isSome_iff_exists.mp hsome
    refine ⟨(s.handles.put o ({}, s.handles.sys)).put o r, ?_⟩
    simp [exec, DeviceHandles.step, hnew, DeviceHandles.State.put, hr]
  cases ok with
  | false =>
    obtain ⟨handles, h⟩ := hopen .noNode rfl
    exact ⟨.noNode, handles, rfl, h⟩
  | true =>
    obtain ⟨handles, h⟩ := hopen (.opened fd context) (by simp [Device.open, hfd, hcontext])
    exact ⟨.opened fd context, handles, rfl, h⟩

lemma lt_of_findMatch {info : SysfsInfo} {path : String} {matched : List Bool} {i : ℕ}
    (h : findMatch info path devices matched = some i) : i < devices.length := by
  obtain ⟨hi, -⟩ := List.findIdx?_eq_some_iff_getElem.mp h
  rw [List.length_zip] at hi
  exact hi.trans_le (min_le_left _ _)

lemma scan_progress {path : String} {paths : List String} {matched : List Bool}
    (hi : Inv m devices s) (hm : s.main = .opening (path :: paths) matched) :
    ∃ outcome t, scan m devices s path paths matched outcome = some t := by
  have htodo := hi.todo
  rw [hm] at htodo
  have hnew : s.handles.objects s.ids.length = none := by
    rw [← Option.not_isSome_iff_eq_none, hi.objects]
    exact fun hmem => absurd (htodo.1 _ hmem) (Nat.lt_irrefl _)
  simp only [scan]
  cases hf : findMatch (probeSysfs m path) path devices matched with
  | none => exact ⟨.noNode, _, rfl⟩
  | some i =>
    obtain ⟨outcome, handles, hok, hrun⟩ := exists_opening hi.good hnew path (m.opens path)
    obtain ⟨-, d, hobj, -⟩ := open_objects hrun
    have hd : handles.objects s.ids.length = some d := by rw [hobj, Function.update_self]
    refine ⟨outcome, ?_⟩
    simp only [List.getElem?_eq_getElem (lt_of_findMatch hf), hok, if_true, hrun, Option.bind_some]
    split
    · exact ⟨_, rfl⟩
    · simp only [DeviceHandles.step, hd, Option.map_some]
      exact ⟨_, rfl⟩

lemma stopping_step {a : Action} (hs : Stopping m devices s) (ha : a.own)
    (h : step m devices s a = some t) :
    Stopping m devices t ∧ t.fuel ≤ s.fuel ∧ (a.resync = false → t.fuel < s.fuel) := by
  have hi := inv_step hs.inv h
  rw [step.eq_def, if_neg hs.inv.not_crashed] at h
  cases a with
  | scan outcome =>
    cases hm : s.main <;> simp only [hm] at h
    case opening paths matched =>
      cases paths with
      | nil => cases h
      | cons path paths =>
        obtain ⟨hlt, hr⟩ := scan_fuel hs.inv hm h
        exact ⟨⟨hi, hr.trans hs.running⟩, hlt.le, fun _ => hlt⟩
    all_goals cases h
  | main grabbed =>
    obtain ⟨hlt, hr⟩ := mainStep_fuel hs.inv h
    exact ⟨⟨hi, hr.trans hs.running⟩, hlt.le, fun _ => hlt⟩
  | reader o status =>
    obtain ⟨hle, hlt, hr⟩ := readerStep_fuel hs.inv hs.running h
    exact ⟨⟨hi, hr.trans hs.running⟩, hle, fun hsync => hlt (of_decide_eq_false hsync)⟩
  | terminate => cases ha

lemma joinEntry_progress {rest : List ℕ} (hi : Inv m devices s) (ho : o ∈ s.ids) :
    (∃ t, joinEntry s o rest = some t) ∨ ∃ t, readerStep s o .again = some t := by
  obtain ⟨e, -, he, -, -⟩ := hi.found ho
  obtain ⟨-, d, -, -, hdev⟩ := hi.read_entry he
  simp only [joinEntry, readerStep, he, Option.map_some]
  cases ht : e.thread with
  | none | exited => exact .inl ⟨_, rfl⟩
  | head => exact .inr ⟨_, rfl⟩
  | reading =>
    rw [hdev (by rw [ht]; decide)]
    exact .inr ⟨_, rfl⟩
  | draining =>
    rw [hdev (by rw [ht]; decide)]
    exact .inr ⟨_, rfl⟩

lemma mainStep_progress (hs : Stopping m devices s) (hm : s.main ≠ .stopped)
    (hopened : ∀ path paths matched, s.main ≠ .opening (path :: paths) matched) :
    (∃ t, mainStep s true = some t) ∨ ∃ o t, readerStep s o .again = some t := by
  obtain ⟨hi, hr⟩ := hs
  have hmem : ∀ {o rest}, Todo m s.ids s.main → s.main = .starting (o :: rest) ∨
      s.main = .joining (o :: rest) ∨ s.main = .closing (o :: rest) → o ∈ s.ids := by
    rintro o rest htodo (h | h | h) <;> rw [h] at htodo <;> exact htodo.1 List.mem_cons_self
  have hobject : ∀ {o}, o ∈ s.ids → ∃ d, s.handles.objects o = some d := fun ho =>
    Option.isSome_iff_exists.mp ((hi.objects _).mpr ho)
  rw [mainStep]
  cases hmain : s.main <;> simp only
  case opening paths matched =>
    cases paths with
    | nil => exact .inl ⟨_, rfl⟩
    | cons path paths => exact absurd hmain (hopened path paths matched)
  case opened => exact .inl ⟨_, rfl⟩
  case starting rest =>
    cases rest with
    | nil => exact .inl ⟨_, rfl⟩
    | cons o rest =>
      obtain ⟨d, hd⟩ := hobject (hmem hi.todo (.inl hmain))
      left
      simp only [startEntry, DeviceHandles.step, hd, Option.map_some]
      split
      · split <;> exact ⟨_, rfl⟩
      · exact ⟨_, rfl⟩
  case running => exact .inl ⟨_, by rw [hr]; rfl⟩
  case deactivating rest => cases rest <;> exact .inl ⟨_, rfl⟩
  case joining rest =>
    cases rest with
    | nil => exact .inl ⟨_, rfl⟩
    | cons o rest =>
      exact (joinEntry_progress hi (hmem hi.todo (.inr (.inl hmain)))).imp_right fun h => ⟨o, h⟩
  case closing rest =>
    cases rest with
    | nil => exact .inl ⟨_, rfl⟩
    | cons o rest =>
      obtain ⟨d, hd⟩ := hobject (hmem hi.todo (.inr (.inr hmain)))
      left
      simp only [DeviceHandles.step, hd, Option.map_some]
      exact ⟨_, rfl⟩
  case clearing =>
    left
    split
    · exact ⟨_, rfl⟩
    · next o ids hids =>
      obtain ⟨d, hd⟩ := hobject (hids ▸ List.mem_cons_self)
      simp only [clearEntry, DeviceHandles.step, hd, Option.map_some]
      split <;> exact ⟨_, rfl⟩
  case stopped => exact absurd hmain hm

lemma stopping_progress (hs : Stopping m devices s) (hm : s.main ≠ .stopped) :
    ∃ a t, (a.own = true ∧ a.resync = false) ∧ step m devices s a = some t := by
  have hmainStep : ∀ grabbed, step m devices s (.main grabbed) = mainStep s grabbed := fun grabbed => by
    rw [step, if_neg hs.inv.not_crashed]
  have hreaderStep : ∀ o status, step m devices s (.reader o status) = readerStep s o status :=
    fun o status => by rw [step, if_neg hs.inv.not_crashed]
  by_cases hscan : ∃ path paths matched, s.main = .opening (path :: paths) matched
  · obtain ⟨path, paths, matched, hmain⟩ := hscan
    obtain ⟨outcome, t, ht⟩ := scan_progress hs.inv hmain
    refine ⟨.scan outcome, t, ⟨rfl, rfl⟩, ?_⟩
    rw [step, if_neg hs.inv.not_crashed]
    simp only [hmain]
    exact ht
  · rcases mainStep_progress hs hm fun path paths matched h => hscan ⟨path, paths, matched, h⟩ with
      ⟨t, ht⟩ | ⟨o, t, ht⟩
    · exact ⟨.main true, t, ⟨rfl, rfl⟩, (hmainStep true).trans ht⟩
    · exact ⟨.reader o .again, t, ⟨rfl, rfl⟩, (hreaderStep o .again).trans ht⟩

end Steps

/-- Once `g_running` is false, `stop` returns: until the main thread is through some step can be taken,
and there are only so many, but for the reads that ask for a resync. -/
theorem stop_returns (as : List Action) (t : State)
    (hrun : exec (step m devices) (start m devices) as = some t) (hrunning : t.running = false) :
    (∀ bs u, (∀ a ∈ bs, a.own = true) → exec (step m devices) t bs = some u →
      bs.length ≤ t.fuel + bs.countP Action.resync) ∧
      ∃ bs u, (∀ a ∈ bs, a.own = true ∧ a.resync = false) ∧ exec (step m devices) t bs = some u ∧
        u.main = .stopped := by
  have hs : Stopping m devices t := ⟨inv_run hrun, hrunning⟩
  have hsettle : ∀ s a u, Stopping m devices s → a.own = true ∧ a.resync = false →
      step m devices s a = some u → Stopping m devices u ∧ u.fuel < s.fuel := by
    rintro s a u hs ⟨hown, hsync⟩ hu
    obtain ⟨ht, -, hlt⟩ := stopping_step hs hown hu
    exact ⟨ht, hlt hsync⟩
  refine ⟨fun bs u hown hbs => ?_, exec_ends hsettle (fun s hs hm => stopping_progress hs hm) hs⟩
  have hle : bs.length + u.fuel ≤ t.fuel + bs.countP Action.resync :=
    (exec_bounded_but (fun s a u => stopping_step) hs hown hbs).2
  omega

theorem pad_stop_returns : ∃ t,
    exec (step padNode [padBlock]) (start padNode [padBlock]) (padPressed ++ [.terminate]) = some t ∧
    ∃ bs u, exec (step padNode [padBlock]) t bs = some u ∧ u.main = .stopped := by
  obtain ⟨t, ht⟩ : ∃ t, exec (step padNode [padBlock]) (start padNode [padBlock])
      (padPressed ++ [.terminate]) = some t := Option.isSome_iff_exists.mp (by decide +kernel)
  have hrunning : t.running = false :=
    exec_all (p := fun t => t.running = false) (by decide +kernel) ht
  obtain ⟨-, bs, u, -, hbs, hu⟩ := stop_returns padNode [padBlock] _ t ht hrunning
  exact ⟨t, ht, bs, u, hbs, hu⟩

end PointerForce.Daemon.ReaderThreads
