import Mathlib.Tactic

/-! Items that come one after the other, each of which goes to the first free place that accepts
it. A place stays free if the item turns out to be unusable. -/

namespace PointerForce.Foundations.GreedyMatching

variable {α : Type} (accepts : ℕ → α → Bool) (usable : α → Bool) (n : ℕ)

def choose (given : List (ℕ × α)) (x : α) : Option ℕ :=
  (List.range n).find? fun i => decide (i ∉ given.map Prod.fst) && accepts i x

def give (given : List (ℕ × α)) (x : α) : List (ℕ × α) :=
  match choose accepts n given x with
  | some i => if usable x then given ++ [(i, x)] else given
  | none => given

def giveAll (items : List α) : List (ℕ × α) := items.foldl (give accepts usable n) []

/-- Before `x` comes a usable item that the place accepts, as do at most such earlier places as
have got an item by then. -/
inductive Served [LT α] (items : List α) : ℕ → α → Prop
  | intro {i : ℕ} {x : α} (y : α) (hy : y ∈ items) (hlt : y < x) (hu : usable y) (hi : i < n)
      (ha : accepts i y) (hserved : ∀ j < i, accepts j y → Served items j y) : Served items i x

variable {accepts usable n} {given : List (ℕ × α)} {items : List α} {i : ℕ} {x : α}

lemma choose_eq_some_iff : choose accepts n given x = some i ↔
    i < n ∧ i ∉ given.map Prod.fst ∧ accepts i x ∧
      ∀ j < i, accepts j x → j ∈ given.map Prod.fst := by
  rw [choose, List.find?_range_eq_some]
  simp only [Bool.and_eq_true, decide_eq_true_eq, List.mem_range, Bool.not_eq_true',
    ← Bool.not_eq_true, not_and]
  constructor
  · rintro ⟨⟨hf, ha⟩, hi, hj⟩
    exact ⟨hi, hf, ha, fun j hlt haj => not_not.mp fun hn => hj j hlt hn haj⟩
  · rintro ⟨hi, hf, ha, hj⟩
    exact ⟨⟨hf, ha⟩, hi, fun j hlt hn haj => hn (hj j hlt haj)⟩

lemma mem_give {p : ℕ × α} : p ∈ give accepts usable n given x ↔
    p ∈ given ∨ p.2 = x ∧ usable x ∧ choose accepts n given x = some p.1 := by
  rw [give]
  cases hc : choose accepts n given x with
  | none => simp
  | some i =>
    cases hu : usable x with
    | false => simp
    | true =>
      simp only [if_true, List.mem_append, List.mem_singleton, Option.some.injEq, true_and]
      constructor
      · rintro (h | rfl)
        · exact .inl h
        · exact .inr ⟨rfl, rfl⟩
      · rintro (h | ⟨rfl, rfl⟩)
        · exact .inl h
        · exact .inr rfl

@[simp] lemma giveAll_nil : giveAll accepts usable n [] = [] := rfl

@[simp] lemma giveAll_append : giveAll accepts usable n (items ++ [x]) =
    give accepts usable n (giveAll accepts usable n items) x := by
  rw [giveAll, List.foldl_append]
  rfl

lemma places_nodup : ((giveAll accepts usable n items).map Prod.fst).Nodup := by
  induction items using List.reverseRecOn with
  | nil => exact List.nodup_nil
  | append_singleton items x ih =>
    rw [giveAll_append, give]
    split
    · next i hc =>
      split
      · have hi := (choose_eq_some_iff.mp hc).2.1
        rw [List.map_append, List.nodup_append]
        exact ⟨ih, List.nodup_singleton i, by grind⟩
      · exact ih
    · exact ih

lemma lt_of_mem_giveAll {p : ℕ × α} (h : p ∈ giveAll accepts usable n items) : p.1 < n := by
  induction items using List.reverseRecOn with
  | nil => simp at h
  | append_singleton items x ih =>
    rw [giveAll_append, mem_give] at h
    rcases h with h | ⟨-, -, hc⟩
    · exact ih h
    · exact (choose_eq_some_iff.mp hc).1

lemma items_sublist : ((giveAll accepts usable n items).map Prod.snd).Sublist items := by
  induction items using List.reverseRecOn with
  | nil => exact List.Sublist.refl []
  | append_singleton items x ih =>
    rw [giveAll_append, give]
    split
    · split
      · rw [List.map_append]
        exact ih.append (List.Sublist.refl [x])
      · exact ih.trans (List.sublist_append_left items [x])
    · exact ih.trans (List.sublist_append_left items [x])

section Ordered

variable [LinearOrder α] (hitems : items.Pairwise (· < ·))

include hitems

theorem mem_giveAll_iff : (i, x) ∈ giveAll accepts usable n items ↔
    x ∈ items ∧ usable x ∧ i < n ∧ accepts i x ∧
      (¬ ∃ y < x, (i, y) ∈ giveAll accepts usable n items) ∧
        ∀ j < i, accepts j x → ∃ y < x, (j, y) ∈ giveAll accepts usable n items := by
  induction items using List.reverseRecOn generalizing i x with
  | nil => simp
  | append_singleton items z ih =>
    rw [List.pairwise_append] at hitems
    obtain ⟨hsorted, -, hlast⟩ := hitems
    have hlast : ∀ y ∈ items, y < z := fun y hy => hlast y hy z (List.mem_singleton_self z)
    have hgiven : ∀ {k y}, (k, y) ∈ giveAll accepts usable n items → y ∈ items := fun hm =>
      items_sublist.subset (List.mem_map_of_mem (f := Prod.snd) hm)
    have hplace : ∀ k, k ∈ (giveAll accepts usable n items).map Prod.fst ↔
        ∃ y < z, (k, y) ∈ giveAll accepts usable n items := by
      intro k
      rw [List.mem_map]
      constructor
      · rintro ⟨⟨_, y⟩, hm, rfl⟩
        exact ⟨y, hlast y (hgiven hm), hm⟩
      · rintro ⟨y, -, hm⟩
        exact ⟨(k, y), hm, rfl⟩
    -- the last item does not come before any of the others
    have hbefore : ∀ k u, u ≤ z → ((∃ y < u, (k, y) ∈ giveAll accepts usable n (items ++ [z])) ↔
        ∃ y < u, (k, y) ∈ giveAll accepts usable n items) := by
      intro k u hu
      refine exists_congr fun y => and_congr_right fun hy => ?_
      rw [giveAll_append, mem_give]
      exact or_iff_left fun h => (hy.trans_le hu).ne h.1
    by_cases hx : x ∈ items
    · have hxz := hlast x hx
      simp only [hbefore _ x hxz.le]
      rw [giveAll_append, mem_give, or_iff_left fun h => hxz.ne h.1, ih hsorted]
      simp [hx]
    · by_cases hxz : x = z
      · subst hxz
        simp only [hbefore _ x le_rfl]
        rw [giveAll_append, mem_give, or_iff_right fun h => hx (hgiven h), choose_eq_some_iff]
        simp only [hplace, List.mem_append, List.mem_singleton, or_true, true_and]
        tauto
      · refine iff_of_false ?_ fun h => ?_
        · rw [giveAll_append, mem_give]
          exact fun h => h.elim (fun hm => hx (hgiven hm)) fun hm => hxz hm.1
        · rcases List.mem_append.mp h.1 with h | h
          · exact hx h
          · exact hxz (List.mem_singleton.mp h)

lemma served_iff (i : ℕ) (x : α) : Served accepts usable n items i x ↔
    ∃ y < x, (i, y) ∈ giveAll accepts usable n items := by
  induction i using Nat.strong_induction_on generalizing x with
  | _ i ih =>
    constructor
    · rintro ⟨y, hy, hlt, hu, hi, ha, hserved⟩
      by_cases hfree : ∃ z < y, (i, z) ∈ giveAll accepts usable n items
      · obtain ⟨z, hz, hm⟩ := hfree
        exact ⟨z, hz.trans hlt, hm⟩
      · refine ⟨y, hlt, (mem_giveAll_iff hitems).mpr ⟨hy, hu, hi, ha, hfree, ?_⟩⟩
        exact fun j hj haj => (ih j hj y).mp (hserved j hj haj)
    · rintro ⟨y, hlt, hm⟩
      obtain ⟨hy, hu, hi, ha, -, hj⟩ := (mem_giveAll_iff hitems).mp hm
      exact ⟨y, hy, hlt, hu, hi, ha, fun j hlt haj => (ih j hlt y).mpr (hj j hlt haj)⟩

theorem given_iff : (i, x) ∈ giveAll accepts usable n items ↔
    x ∈ items ∧ usable x ∧ i < n ∧ accepts i x ∧ ¬ Served accepts usable n items i x ∧
      ∀ j < i, accepts j x → Served accepts usable n items j x := by
  simp only [served_iff hitems]
  exact mem_giveAll_iff hitems

lemma items_nodup : ((giveAll accepts usable n items).map Prod.snd).Nodup :=
  items_sublist.nodup (hitems.imp ne_of_lt)

theorem maximal (hi : i < n) (hempty : i ∉ (giveAll accepts usable n items).map Prod.fst)
    (hx : x ∈ items) (ha : accepts i x) (hu : usable x) :
    x ∈ (giveAll accepts usable n items).map Prod.snd := by
  have hnot : ∀ y, (i, y) ∉ giveAll accepts usable n items := fun y hm =>
    hempty (List.mem_map_of_mem (f := Prod.fst) hm)
  -- the first place that accepts the item and has no earlier one
  have hex : ∃ j, accepts j x ∧ ¬ ∃ y < x, (j, y) ∈ giveAll accepts usable n items :=
    ⟨i, ha, fun ⟨y, _, hm⟩ => hnot y hm⟩
  classical
  obtain ⟨hj, hfree⟩ := Nat.find_spec hex
  have hle : Nat.find hex ≤ i := Nat.find_min' hex ⟨ha, fun ⟨y, _, hm⟩ => hnot y hm⟩
  have hm := (mem_giveAll_iff hitems).mpr ⟨hx, hu, hle.trans_lt hi, hj, hfree, fun k hk hak => by
    by_contra hno
    exact Nat.find_min hex hk ⟨hak, hno⟩⟩
  exact List.mem_map_of_mem (f := Prod.snd) hm

end Ordered

end PointerForce.Foundations.GreedyMatching
