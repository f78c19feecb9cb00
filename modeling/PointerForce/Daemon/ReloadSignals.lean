import PointerForce.Daemon.EventLoop
import PointerForce.Foundations.Traces

/-! The signals that ask for a reload, and the loads by which the multiplexer answers them. The
threads are those of the event loop; a load takes two steps here, so that a signal can come in the
middle of it. -/

namespace PointerForce.Daemon.ReloadSignals

open Foundations Foundations.Runs Foundations.Traces ConfigLoader EventLoop

inductive Mark where
  | hangup
  | started
  | succeeded
  | initialised
  | dispatched
  deriving DecidableEq, Repr

structure Watched where
  daemon : EventLoop.State
  -- the multiplexer is inside `ConfigLoader::load`
  loading : Bool := false
  marks : List Mark := []

def muxMark (s t : EventLoop.State) : Option Mark :=
  match s.mux with
  | .load => if t.mux = .init then some .succeeded else none
  | .init => some .initialised
  | .pop => if s.queue = [] then none else some .dispatched
  | .handle _ | .notify _ _ | .execute _ _ => some .dispatched
  | .head | .testReload | .stopped => none

def AboutToLoad (w : Watched) : Prop := w.daemon.mux = .load ∧ w.loading = false

instance : DecidablePred AboutToLoad := fun w => by unfold AboutToLoad; infer_instance

variable (C : Codec) (K : KeyCodes)

def muxStep (w : Watched) : Option Watched :=
  if AboutToLoad w then
    if w.daemon.crashed then none else some { w with loading := true, marks := w.marks ++ [.started] }
  else (EventLoop.step C K w.daemon .mux).map fun t =>
    { daemon := t, loading := w.loading && t.crashed, marks := w.marks ++ (muxMark w.daemon t).toList }

def step (w : Watched) (a : Action) : Option Watched :=
  match a with
  | .mux => muxStep C K w
  | .hangup => (EventLoop.step C K w.daemon .hangup).map fun t =>
      { w with daemon := t, marks := w.marks ++ [.hangup] }
  | a => (EventLoop.step C K w.daemon a).map fun t => { w with daemon := t }

def unanswered (w : Watched) : ℕ := w.daemon.reload.toNat + (decide (AboutToLoad w)).toNat

def Separated (marks : List Mark) : Prop :=
  Always (fun pre x => x = .dispatched → Followed .succeeded .initialised pre) marks

structure Inv (w : Watched) : Prop where
  loading : w.loading = true → w.daemon.mux = .load
  answered : w.daemon.reload = true ∨ AboutToLoad w ∨ Followed .hangup .started w.marks
  counted : w.marks.count .started + unanswered w ≤ w.marks.count .hangup
  initialised : w.daemon.mux = .init ∨ Followed .succeeded .initialised w.marks
  separated : Separated w.marks

section Steps

variable {C K} {w w' : Watched} {s t : EventLoop.State} {a : Action}

lemma step_frame (h : EventLoop.step C K s a = some t) (hm : a ≠ .mux) (hh : a ≠ .hangup) :
    t.mux = s.mux ∧ t.reload = s.reload := by
  rcases step_cases h with ⟨ha, -⟩ | ⟨ha, -⟩ | ⟨_, raw, now, e, -, rfl⟩ | hsame
  · exact absurd ha hm
  · exact absurd ha hh
  · rw [deliver]
    split <;> exact ⟨rfl, rfl⟩
  · exact ⟨hsame.mux, hsame.reload⟩

lemma mux_step (h : EventLoop.step C K s .mux = some t) :
    s.crashed = false ∧ EventLoop.muxStep C K s = some t := by
  rw [EventLoop.step] at h
  split at h
  case isTrue => cases h
  case isFalse hc => exact ⟨Bool.not_eq_true _ ▸ hc, h⟩

lemma Inv.quiet (hi : Inv w) (hn : ¬ AboutToLoad w) (hn' : ¬ AboutToLoad w')
    (hload : w'.loading = true → w'.daemon.mux = .load)
    (hreload : w'.daemon.reload = w.daemon.reload) {m : Option Mark}
    (hmarks : w'.marks = w.marks ++ m.toList) (hm : ∀ x ∈ m, x ≠ .hangup ∧ x ≠ .started)
    (hinit : w'.daemon.mux = .init ∨ Followed .succeeded .initialised w'.marks)
    (hsep : m = some .dispatched → w.daemon.mux ≠ .init) : Inv w' where
  loading := hload
  answered := by
    rw [hreload, hmarks]
    rcases hi.answered with hr | ha | hf
    · exact .inl hr
    · exact absurd ha hn
    · cases m with
      | none => exact .inr (.inr (by simpa using hf))
      | some x => exact .inr (.inr (followed_append hf (hm x rfl).1))
  counted := by
    have hc := hi.counted
    have hu : unanswered w' = unanswered w := by
      simp only [unanswered, hreload, hn, hn']
    rw [hu, hmarks]
    cases m with
    | none => simpa using hc
    | some x =>
      obtain ⟨hh, hs⟩ := hm x rfl
      simpa [List.count_append, hh, hs] using hc
  initialised := hinit
  separated := by
    rw [hmarks]
    cases m with
    | none => simpa using hi.separated
    | some x =>
      refine always_append.mpr ⟨hi.separated, ?_⟩
      rintro rfl
      exact hi.initialised.resolve_left (hsep rfl)

lemma Inv.start (hi : Inv w) (ha : AboutToLoad w) :
    Inv { w with loading := true, marks := w.marks ++ [.started] } where
  loading _ := ha.1
  answered := .inr (.inr (followed_append_self w.marks (by decide)))
  counted := by
    have hc := hi.counted
    have hn : ¬ AboutToLoad { w with loading := true, marks := w.marks ++ [.started] } := by
      simp [AboutToLoad]
    simp only [unanswered, ha, hn, decide_true, decide_false, Bool.toNat_true, Bool.toNat_false,
      List.count_append, List.count_singleton] at hc ⊢
    simp only [beq_self_eq_true, if_true]
    have : (Mark.started == Mark.hangup) = false := rfl
    simp only [this]
    omega
  initialised := by
    have hf := hi.initialised.resolve_left (by rw [ha.1]; nofun)
    exact .inr (followed_append hf (by decide))
  separated := always_append.mpr ⟨hi.separated, by nofun⟩

lemma Inv.hangup (hi : Inv w) :
    Inv { w with daemon := { w.daemon with reload := true }, marks := w.marks ++ [.hangup] } where
  loading := hi.loading
  answered := .inl rfl
  counted := by
    have hc := hi.counted
    simp only [unanswered, AboutToLoad] at hc ⊢
    simp [List.count_append]
    have := Bool.toNat_le w.daemon.reload
    omega
  initialised := by
    rcases hi.initialised with hm | hf
    · exact .inl hm
    · exact .inr (followed_append hf (by decide))
  separated := always_append.mpr ⟨hi.separated, by nofun⟩

lemma Inv.frame (hi : Inv w) (hm : t.mux = w.daemon.mux) (hr : t.reload = w.daemon.reload) :
    Inv { w with daemon := t } where
  loading h := hm.trans (hi.loading h)
  answered := by
    simpa only [AboutToLoad, hm, hr] using hi.answered
  counted := by
    simpa only [unanswered, AboutToLoad, hm, hr] using hi.counted
  initialised := by
    simpa only [hm] using hi.initialised
  separated := hi.separated

lemma muxStep_other (h : EventLoop.muxStep C K s = some t) (ht : s.mux ≠ .testReload)
    (hl : s.mux ≠ .load) : t.reload = s.reload ∧ t.mux ≠ .load ∧ t.mux ≠ .init := by
  rw [EventLoop.muxStep.eq_def] at h
  split at h
  case h_2 hm => exact absurd hm ht
  case h_3 hm => exact absurd hm hl
  case h_5 hm => split at h <;> (obtain rfl := Option.some.inj h; simp)
  case h_6 ev hm => split at h <;> (obtain rfl := Option.some.inj h; simp)
  case h_9 hm => cases h
  case h_1 | h_7 =>
    obtain rfl := Option.some.inj h
    refine ⟨rfl, ?_, ?_⟩ <;> dsimp only <;> split <;> simp
  all_goals
    obtain rfl := Option.some.inj h
    simp

lemma muxMark_ne {x : Mark} (hx : x ∈ muxMark s t) : x ≠ .hangup ∧ x ≠ .started := by
  rw [muxMark] at hx
  split at hx
  case h_1 | h_3 =>
    split at hx <;> cases hx
    decide
  all_goals
    cases hx <;> decide

lemma muxMark_init (hm : s.mux = .init) : muxMark s t = some .initialised := by
  rw [muxMark, hm]

lemma muxMark_succeeded (h : muxMark s t = some .succeeded) : t.mux = .init := by
  rw [muxMark] at h
  split at h
  case h_1 =>
    split at h
    case isTrue ht => exact ht
    case isFalse => cases h
  case h_3 => split at h <;> cases h
  all_goals cases h

lemma Inv.idle (hi : Inv w) (hm : w.daemon.mux ≠ .load) : w.loading = false :=
  Bool.eq_false_iff.mpr fun hl => hm (hi.loading hl)

lemma Inv.testReload (hi : Inv w) (hm : w.daemon.mux = .testReload) :
    Inv { w with daemon := { w.daemon with
            mux := if w.daemon.reload then .load else .pop, reload := false } } := by
  have hidle := hi.idle (by rw [hm]; nofun)
  have hn : ¬ AboutToLoad w := by simp [AboutToLoad, hm]
  have hf := hi.initialised.resolve_left (by rw [hm]; nofun)
  have hans := hi.answered
  have hc := hi.counted
  cases hr : w.daemon.reload
  -- the flag was clear and every signal has been answered
  · rw [hr] at hans
    simp only [unanswered, hr, hn] at hc
    exact
      { loading := by simp [hidle]
        answered := .inr (.inr ((hans.resolve_left nofun).resolve_left hn))
        counted := by simpa [unanswered, AboutToLoad] using hc
        initialised := .inr hf
        separated := hi.separated }
  · simp only [unanswered, hr, hn] at hc
    exact
      { loading := by simp
        answered := .inr (.inl ⟨by simp, hidle⟩)
        counted := by simpa [unanswered, AboutToLoad, hidle] using hc
        initialised := .inr hf
        separated := hi.separated }

lemma Inv.loaded (hi : Inv w) (hn : ¬ AboutToLoad w) (hm : w.daemon.mux = .load)
    (hl : w.loading = true) (hc : w.daemon.crashed = false)
    (ht : t = runLoad C K w.daemon fun ok s => { s with mux := if ok then .init else .pop }) :
    Inv { daemon := t, loading := w.loading && t.crashed,
          marks := w.marks ++ (muxMark w.daemon t).toList } := by
  have hf := hi.initialised.resolve_left (by rw [hm]; nofun)
  have hsep : ∀ u, muxMark w.daemon u = some .dispatched → w.daemon.mux ≠ .init := by
    intro u _
    rw [hm]
    nofun
  rcases runLoad_cases (C := C) (K := K) (s := w.daemon)
    fun ok s => { s with mux := if ok then .init else .pop } with ⟨ok, config, he⟩ | ⟨config, he⟩
  · rw [he] at ht
    subst ht
    cases ok
    · refine hi.quiet hn (by simp [AboutToLoad]) (by simp [hc]) rfl rfl (fun _ => muxMark_ne) (.inr ?_)
        (hsep _)
      simpa [muxMark, hm] using hf
    · exact hi.quiet hn (by simp [AboutToLoad]) (by simp [hc]) rfl rfl (fun _ => muxMark_ne) (.inl rfl)
        (hsep _)
  -- the load has thrown, and the daemon is gone
  · rw [he] at ht
    subst ht
    refine hi.quiet hn (by simp [AboutToLoad, hl]) (fun _ => hm) rfl rfl (fun _ => muxMark_ne)
      (.inr ?_) (hsep _)
    simpa [muxMark, hm] using hf

lemma Inv.mux (hi : Inv w) (hn : ¬ AboutToLoad w) (h : EventLoop.step C K w.daemon .mux = some t) :
    Inv { daemon := t, loading := w.loading && t.crashed,
          marks := w.marks ++ (muxMark w.daemon t).toList } := by
  obtain ⟨hc, h⟩ := mux_step h
  by_cases ht : w.daemon.mux = .testReload
  · have hidle := hi.idle (by rw [ht]; nofun)
    rw [EventLoop.muxStep, ht] at h
    obtain rfl := Option.some.inj h
    simpa [muxMark, ht, hidle] using hi.testReload ht
  by_cases hl : w.daemon.mux = .load
  · have hloading : w.loading = true := Bool.not_eq_false _ ▸ fun hw => hn ⟨hl, hw⟩
    rw [EventLoop.muxStep, hl] at h
    obtain rfl := Option.some.inj h
    exact hi.loaded hn hl hloading hc rfl
  · obtain ⟨hr, htl, hti⟩ := muxStep_other h ht hl
    have hidle := hi.idle hl
    refine hi.quiet hn (fun ha => htl ha.1) (by simp [hidle]) hr rfl (fun _ => muxMark_ne)
      (.inr ?_) ?_
    · rcases hi.initialised with hm | hf
      · rw [muxMark_init hm]
        exact followed_append_self w.marks (by decide)
      · cases hx : muxMark w.daemon t with
        | none => simpa using hf
        | some x =>
          refine followed_append hf ?_
          rintro rfl
          exact hti (muxMark_succeeded hx)
    · intro hd hm
      rw [muxMark_init hm] at hd
      cases hd

lemma Inv.step (hi : Inv w) (h : step C K w a = some w') : Inv w' := by
  cases a
  case mux =>
    simp only [ReloadSignals.step, muxStep] at h
    split at h
    case isTrue ha =>
      split at h
      · cases h
      · obtain rfl := Option.some.inj h
        exact hi.start ha
    case isFalse ha =>
      obtain ⟨t, ht, rfl⟩ := Option.map_eq_some_iff.mp h
      exact hi.mux ha ht
  case hangup =>
    obtain ⟨t, ht, rfl⟩ := Option.map_eq_some_iff.mp h
    rw [EventLoop.step] at ht
    split at ht
    · cases ht
    · obtain rfl := Option.some.inj ht
      exact hi.hangup
  all_goals
    obtain ⟨t, ht, rfl⟩ := Option.map_eq_some_iff.mp h
    obtain ⟨hm, hr⟩ := step_frame ht (by nofun) (by nofun)
    exact hi.frame hm hr

end Steps

lemma inv_start {s : EventLoop.State} (hm : s.mux = .head) (hr : s.reload = false) :
    Inv { daemon := s } where
  loading := nofun
  answered := .inr (.inr followed_nil)
  counted := by simp [unanswered, AboutToLoad, hm, hr]
  initialised := .inr followed_nil
  separated := always_nil

/-- Every signal is answered by a load that starts after it, no load starts without a signal of
its own, and a successful load is followed by its initialisation before anything else. -/
theorem no_hangup_lost (config : Config) (table : Mapper.Table) (files : String → Option Bytes)
    (entries : ℕ → Option Entry) (as : List Action) (w : Watched)
    (hrun : Runs.exec (step C K) { daemon := { config, table, files, entries } } as = some w) :
    (w.daemon.reload = true ∨ AboutToLoad w ∨ Followed .hangup .started w.marks) ∧
      w.marks.count .started ≤ w.marks.count .hangup ∧
      ∀ pre mid post, w.marks = pre ++ .succeeded :: mid ++ .dispatched :: post →
        .initialised ∈ mid := by
  have hi : Inv w := exec_invariant (fun _ _ _ hi h => hi.step h) (inv_start rfl rfl) hrun
  refine ⟨hi.answered, le_of_add_le_left hi.counted, ?_⟩
  intro pre mid post hmarks
  exact hi.separated (pre ++ .succeeded :: mid) .dispatched post hmarks rfl pre mid rfl

def emptyFile : Bytes := utf8 "\x7b\"devices\":[]\x7d"

def emptyCodec : Codec := .ofTable [(emptyFile, .object [("devices", .array [])])]

def signalsAroundLoad : List Action :=
  [.mux, .hangup, .hangup, .mux, .mux, .hangup, .mux, .mux, .mux, .mux, .mux, .mux]

theorem coalesced_signals_answered : ∃ w, Runs.exec (step emptyCodec inputEventCodes)
      { daemon := { files := fun _ => some emptyFile } } signalsAroundLoad = some w ∧
    w.marks = [.hangup, .hangup, .started, .hangup, .succeeded, .initialised, .started] ∧
    (w.daemon.reload = true ∨ AboutToLoad w ∨ Followed .hangup .started w.marks) ∧
    w.marks.count .started ≤ w.marks.count .hangup := by
  obtain ⟨w, hw⟩ : ∃ w, Runs.exec (step emptyCodec inputEventCodes)
      { daemon := { files := fun _ => some emptyFile } } signalsAroundLoad = some w :=
    Option.isSome_iff_exists.mp (by decide +kernel)
  obtain ⟨hanswered, hcount, -⟩ := no_hangup_lost emptyCodec inputEventCodes {} ∅
    (fun _ => some emptyFile) (fun _ => none) signalsAroundLoad w hw
  refine ⟨w, hw, ?_, hanswered, hcount⟩
  exact exec_all (p := fun w => w.marks =
    [.hangup, .hangup, .started, .hangup, .succeeded, .initialised, .started]) (by decide +kernel) hw

theorem cleared_before_load : ∃ w, Runs.exec (step emptyCodec inputEventCodes) { daemon := {} }
      [.mux, .hangup, .mux] = some w ∧
    w.daemon.reload = false ∧ ¬ Followed .hangup .started w.marks := by
  refine ⟨_, rfl, rfl, fun h => ?_⟩
  have := h [] [] rfl
  simp at this

end PointerForce.Daemon.ReloadSignals
