import Mathlib.Tactic

/-! Finite runs of a partial step function, and the invariants that such runs keep. -/

namespace PointerForce.Foundations.Runs

variable {State Action Seen : Type} (step : State → Action → Option State)

def exec : State → List Action → Option State
  | s, [] => some s
  | s, a :: as => (step s a).bind fun t => exec t as

/-- Every step of the run is taken in a state where `guard` holds of the state and the action. -/
def Guarded (guard : State → Action → Prop) : State → List Action → Prop
  | _, [] => True
  | s, a :: as => guard s a ∧ ∀ t, step s a = some t → Guarded guard t as

/-- What there is to see along a run, where `look` tells what there is at one step. -/
def observed (look : State → Action → List Seen) : State → List Action → List Seen
  | _, [] => []
  | s, a :: as => look s a ++ ((step s a).map fun t => observed look t as).getD []

variable {step} {guard : State → Action → Prop} {s t : State} {as bs : List Action}

@[simp] lemma exec_nil : exec step s [] = some s := rfl

lemma exec_cons {a : Action} : exec step s (a :: as) = some t ↔
    ∃ u, step s a = some u ∧ exec step u as = some t := by
  simp only [exec, Option.bind_eq_some_iff]

lemma exec_append : exec step s (as ++ bs) = some t ↔
    ∃ u, exec step s as = some u ∧ exec step u bs = some t := by
  induction as generalizing s with
  | nil => simp
  | cons a as ih =>
    simp only [List.cons_append, exec_cons, ih]
    constructor
    · rintro ⟨u, hu, v, hv, ht⟩
      exact ⟨v, ⟨u, hu, hv⟩, ht⟩
    · rintro ⟨v, ⟨u, hu, hv⟩, ht⟩
      exact ⟨u, hu, v, hv, ht⟩

lemma exec_concat {a : Action} : exec step s (as ++ [a]) = some t ↔
    ∃ u, exec step s as = some u ∧ step u a = some t := by
  simp only [exec_append, exec_cons, exec_nil, Option.some.injEq, exists_eq_right]

lemma exec_all {p : State → Prop} [DecidablePred p]
    (hall : (exec step s as).all fun t => p t) (h : exec step s as = some t) : p t := by
  rw [h] at hall
  exact of_decide_eq_true hall

lemma exec_invariant {inv : State → Prop} (hstep : ∀ s a t, inv s → step s a = some t → inv t)
    (hs : inv s) (h : exec step s as = some t) : inv t := by
  induction as generalizing s with
  | nil =>
    obtain rfl := Option.some.inj h
    exact hs
  | cons a as ih =>
    obtain ⟨u, hu, ht⟩ := exec_cons.mp h
    exact ih (hstep s a u hs hu) ht

lemma exec_history {inv : List Action → State → Prop}
    (hstep : ∀ as u a t, exec step s as = some u → inv as u → step u a = some t → inv (as ++ [a]) t)
    (hs : inv [] s) (h : exec step s as = some t) : inv as t := by
  induction as using List.reverseRecOn generalizing t with
  | nil =>
    obtain rfl := Option.some.inj h
    exact hs
  | append_singleton as a ih =>
    obtain ⟨u, hu, ht⟩ := exec_concat.mp h
    exact hstep as u a t hu (ih hu) ht

lemma observed_concat {look : State → Action → List Seen} {a : Action}
    (h : exec step s as = some t) :
    observed step look s (as ++ [a]) = observed step look s as ++ look t a := by
  induction as generalizing s with
  | nil =>
    obtain rfl := Option.some.inj h
    cases hs : step s a <;> simp [observed, hs]
  | cons b as ih =>
    obtain ⟨u, hu, ht⟩ := exec_cons.mp h
    rw [List.cons_append, observed, observed, hu, Option.map_some, Option.map_some, Option.getD_some,
      Option.getD_some, ih ht, List.append_assoc]

lemma exec_total {inv : State → Prop} (hstep : ∀ s a, inv s → ∃ t, step s a = some t ∧ inv t)
    (hs : inv s) (as : List Action) : ∃ t, exec step s as = some t ∧ inv t := by
  induction as generalizing s with
  | nil => exact ⟨s, rfl, hs⟩
  | cons a as ih =>
    obtain ⟨u, hu, hi⟩ := hstep s a hs
    obtain ⟨t, ht, hit⟩ := ih hi
    exact ⟨t, exec_cons.mpr ⟨u, hu, ht⟩, hit⟩

lemma guarded_invariant {inv : State → Prop}
    (hstep : ∀ s a t, inv s → guard s a → step s a = some t → inv t)
    (hs : inv s) (hg : Guarded step guard s as) (h : exec step s as = some t) : inv t := by
  induction as generalizing s with
  | nil =>
    obtain rfl := Option.some.inj h
    exact hs
  | cons a as ih =>
    obtain ⟨u, hu, ht⟩ := exec_cons.mp h
    exact ih (hstep s a u hs hg.1 hu) (hg.2 u hu) ht

lemma guarded_observed {look : State → Action → List Seen} {inv : List Seen → State → Prop}
    (hstep : ∀ seen s a t, inv seen s → guard s a → step s a = some t → inv (seen ++ look s a) t)
    {seen : List Seen} (hs : inv seen s) (hg : Guarded step guard s as)
    (h : exec step s as = some t) : inv (seen ++ observed step look s as) t := by
  induction as generalizing s seen with
  | nil =>
    obtain rfl := Option.some.inj h
    rwa [observed, List.append_nil]
  | cons a as ih =>
    obtain ⟨u, hu, ht⟩ := exec_cons.mp h
    rw [observed, hu, Option.map_some, Option.getD_some, ← List.append_assoc]
    exact ih (hstep seen s a u hs hg.1 hu) (hg.2 u hu) ht

lemma guarded_cons {a : Action} (ha : guard s a) (hs : step s a = some t)
    (h : Guarded step guard t as) : Guarded step guard s (a :: as) := by
  refine ⟨ha, fun u hu => ?_⟩
  obtain rfl : t = u := Option.some.inj (hs.symm.trans hu)
  exact h

lemma guarded_of_forall (h : ∀ a ∈ as, ∀ s, guard s a) : Guarded step guard s as := by
  induction as generalizing s with
  | nil => trivial
  | cons a as ih =>
    exact ⟨h a List.mem_cons_self s, fun t _ => ih fun b hb => h b (List.mem_cons_of_mem a hb)⟩

/-- A run ends alive exactly if each of its steps meets the condition under which a step leaves
the state alive. -/
lemma alive_iff_guarded {inv alive : State → Prop}
    (hstep : ∀ s a t, inv s → step s a = some t → inv t ∧ (alive t ↔ guard s a))
    (hdead : ∀ s a, ¬ alive s → step s a = none) (hs : inv s) (ha : alive s)
    (h : exec step s as = some t) : alive t ↔ Guarded step guard s as := by
  induction as generalizing s with
  | nil =>
    obtain rfl := Option.some.inj h
    exact iff_of_true ha trivial
  | cons a as ih =>
    obtain ⟨u, hu, ht⟩ := exec_cons.mp h
    obtain ⟨hinv, hiff⟩ := hstep s a u hs hu
    by_cases hg : guard s a
    · rw [ih hinv (hiff.mpr hg) ht]
      exact ⟨guarded_cons hg hu, fun hr => hr.2 u hu⟩
    · have hu' : ¬ alive u := fun hl => hg (hiff.mp hl)
      -- nothing happens after the death
      have hstop : t = u := by
        cases as with
        | nil => exact (Option.some.inj ht).symm
        | cons b bs =>
          obtain ⟨v, hv, -⟩ := exec_cons.mp ht
          rw [hdead u b hu'] at hv
          cases hv
      rw [hstop]
      exact iff_of_false hu' fun hr => hg hr.1

section Measures

variable {inv : State → Prop} {own : Action → Prop} {fuel : State → ℕ}

lemma exec_bounded_but {free : Action → Bool}
    (hstep : ∀ s a t, inv s → own a → step s a = some t →
      inv t ∧ fuel t ≤ fuel s ∧ (free a = false → fuel t < fuel s))
    (hs : inv s) (hown : ∀ a ∈ as, own a) (h : exec step s as = some t) :
    inv t ∧ as.length + fuel t ≤ fuel s + as.countP free := by
  induction as generalizing s with
  | nil =>
    obtain rfl := Option.some.inj h
    exact ⟨hs, by simp⟩
  | cons a as ih =>
    obtain ⟨u, hu, ht⟩ := exec_cons.mp h
    obtain ⟨hi, hle, hlt⟩ := hstep s a u hs (hown a List.mem_cons_self) hu
    obtain ⟨hit, hbound⟩ := ih hi (fun b hb => hown b (List.mem_cons_of_mem a hb)) ht
    refine ⟨hit, ?_⟩
    rw [List.length_cons, List.countP_cons]
    cases ha : free a with
    | true =>
      simp only [if_true]
      omega
    | false =>
      have hlt := hlt ha
      omega

lemma exec_bounded
    (hstep : ∀ s a t, inv s → own a → step s a = some t → inv t ∧ fuel t < fuel s)
    (hs : inv s) (hown : ∀ a ∈ as, own a) (h : exec step s as = some t) :
    inv t ∧ as.length + fuel t ≤ fuel s := by
  have hall : ∀ s a t, inv s → own a → step s a = some t →
      inv t ∧ fuel t ≤ fuel s ∧ (false = false → fuel t < fuel s) := by
    intro s a t hi ha ht
    obtain ⟨hit, hlt⟩ := hstep s a t hi ha ht
    exact ⟨hit, hlt.le, fun _ => hlt⟩
  obtain ⟨hit, hle⟩ := exec_bounded_but hall hs hown h
  exact ⟨hit, by simpa using hle⟩

lemma exec_ends {done : State → Prop}
    (hstep : ∀ s a t, inv s → own a → step s a = some t → inv t ∧ fuel t < fuel s)
    (hprogress : ∀ s, inv s → ¬ done s → ∃ a t, own a ∧ step s a = some t) (hs : inv s) :
    ∃ as t, (∀ a ∈ as, own a) ∧ exec step s as = some t ∧ done t := by
  induction hn : fuel s using Nat.strong_induction_on generalizing s with
  | _ n ih =>
    by_cases hd : done s
    · exact ⟨[], s, by simp, rfl, hd⟩
    · obtain ⟨a, u, ha, hu⟩ := hprogress s hs hd
      obtain ⟨hi, hlt⟩ := hstep s a u hs ha hu
      obtain ⟨as, t, hown, ht, hdone⟩ := ih (fuel u) (hn ▸ hlt) hi rfl
      exact ⟨a :: as, t, List.forall_mem_cons.mpr ⟨ha, hown⟩, exec_cons.mpr ⟨u, hu, ht⟩, hdone⟩

lemma sum_update {ι : Type} [DecidableEq ι] {parts : Finset ι} {i : ι} (hi : i ∈ parts)
    (f : ι → ℕ) (x : ℕ) : ∑ j ∈ parts, Function.update f i x j + f i = ∑ j ∈ parts, f j + x := by
  rw [Finset.sum_update_of_mem hi, Finset.sdiff_singleton_eq_erase, ← Finset.add_sum_erase parts f hi]
  omega

end Measures

end PointerForce.Foundations.Runs
