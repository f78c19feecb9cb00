import Mathlib.Tactic

/-! Lookup in lists of pairs, as the finite tables of a program are written down. -/

namespace PointerForce.Foundations.AssociationLists

variable {α β : Type} [BEq α] [LawfulBEq α]

lemma lookup_cons_ite [DecidableEq α] (a : α) (b : β) (xs : List (α × β)) (c : α) :
    ((a, b) :: xs).lookup c = if c = a then some b else xs.lookup c := by
  rw [List.lookup_cons]
  split_ifs with h
  · simp [h]
  · rw [beq_false_of_ne h]

def assign [DecidableEq α] [LT α] [DecidableLT α] (a : α) (b : β) : List (α × β) → List (α × β)
  | [] => [(a, b)]
  | (a', b') :: xs =>
    if a = a' then (a, b) :: xs
    else if a < a' then (a, b) :: (a', b') :: xs
    else (a', b') :: assign a b xs

lemma lookup_assign [DecidableEq α] [LT α] [DecidableLT α] (a : α) (b : β) (xs : List (α × β))
    (c : α) : (assign a b xs).lookup c = if c = a then some b else xs.lookup c := by
  induction xs with
  | nil => exact lookup_cons_ite a b [] c
  | cons x xs ih =>
    obtain ⟨a', b'⟩ := x
    rw [assign]
    split_ifs with he hlt hc hc <;> simp only [lookup_cons_ite, ih]
    all_goals grind

lemma lookup_graph_none (f : α → β) {a : α} {xs : List α} (h : a ∉ xs) :
    (xs.map fun x => (x, f x)).lookup a = none := by
  rw [List.lookup_eq_none_iff]
  rintro ⟨x, y⟩ hp
  obtain ⟨x', hx, he⟩ := List.mem_map.mp hp
  obtain ⟨rfl, -⟩ := Prod.mk.inj he
  simpa [bne_iff_ne] using fun ha : a = x' => h (ha ▸ hx)

lemma mem_of_lookup {a : α} {b : β} {xs : List (α × β)} (h : xs.lookup a = some b) :
    (a, b) ∈ xs := by
  obtain ⟨l, r, rfl, -⟩ := List.lookup_eq_some_iff.mp h
  simp

lemma lookup_of_mem {a : α} {b : β} {xs : List (α × β)} (hn : (xs.map Prod.fst).Nodup)
    (h : (a, b) ∈ xs) : xs.lookup a = some b := by
  induction xs with
  | nil => simp at h
  | cons x xs ih =>
    obtain ⟨a', b'⟩ := x
    rw [List.map_cons, List.nodup_cons] at hn
    rcases List.mem_cons.mp h with he | ht
    · obtain ⟨rfl, rfl⟩ := Prod.mk.inj he
      simp
    · have hne : a ≠ a' := fun he => hn.1 (List.mem_map.mpr ⟨(a, b), ht, he⟩)
      rw [List.lookup_cons, beq_false_of_ne hne]
      exact ih hn.2 ht

lemma lookup_of_find? {p : α → Bool} {a : α} {b : β} {xs : List (α × β)}
    (h : xs.find? (fun x => p x.1) = some (a, b)) : xs.lookup a = some b := by
  induction xs with
  | nil => simp at h
  | cons x xs ih =>
    obtain ⟨a', b'⟩ := x
    by_cases hp : p a' = true
    · obtain ⟨rfl, rfl⟩ : a' = a ∧ b' = b := by simpa [hp] using h
      simp
    · have ht : xs.find? (fun x => p x.1) = some (a, b) := by simpa [hp] using h
      have hne : a ≠ a' := fun he => hp (he ▸ (List.find?_some ht :))
      rw [List.lookup_cons, beq_false_of_ne hne]
      exact ih ht

lemma map_lookup_zip (d : β) {xs : List α} {ys : List β} (hx : xs.Nodup)
    (hl : xs.length = ys.length) : xs.map (fun x => ((xs.zip ys).lookup x).getD d) = ys := by
  induction xs generalizing ys with
  | nil => simpa [eq_comm] using hl
  | cons x xs ih =>
    obtain ⟨y, ys, rfl⟩ := List.exists_of_length_succ ys hl.symm
    have ht := ih (List.nodup_cons.mp hx).2 (Nat.succ.inj hl)
    have he : xs.map (fun a => ((((x :: xs).zip (y :: ys)).lookup a).getD d)) =
        xs.map (fun a => ((xs.zip ys).lookup a).getD d) := by
      apply List.map_congr_left
      intro a ha
      have hne : a ≠ x := fun h => (List.nodup_cons.mp hx).1 (h ▸ ha)
      simp [List.lookup_cons, beq_false_of_ne hne]
    rw [List.map_cons, he, ht]
    simp

end PointerForce.Foundations.AssociationLists
