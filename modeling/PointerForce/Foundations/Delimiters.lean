import Mathlib.Data.List.DropRight
import Mathlib.Tactic

/-! Texts with padding around them, and the search for the first delimiter in a text. -/

namespace PointerForce.Foundations.Delimiters

variable {α : Type} (p : α → Bool)

def trim (xs : List α) : List α := (xs.dropWhile p).rdropWhile p

variable {p} {xs ys : List α}

lemma rdropWhile_append_self (h : xs.rdropWhile p = xs) :
    (xs ++ ys).rdropWhile p = xs ++ ys.rdropWhile p := by
  rw [List.rdropWhile, List.reverse_append, List.dropWhile_append]
  split
  · next he =>
    have hy : ys.rdropWhile p = [] := by
      rw [List.rdropWhile, List.isEmpty_iff.mp he, List.reverse_nil]
    rw [hy, List.append_nil]
    exact h
  · rw [List.reverse_append, List.reverse_reverse]
    rfl

lemma rdropWhile_padding (h : ∀ y ∈ ys, p y) : (xs ++ ys).rdropWhile p = xs.rdropWhile p := by
  rw [List.rdropWhile, List.reverse_append, List.dropWhile_append_of_pos]
  · rfl
  · exact fun y hy => h y (List.mem_reverse.mp hy)

lemma rdropWhile_eq_self_of_forall (h : ∀ x ∈ xs, ¬ p x) : xs.rdropWhile p = xs :=
  List.rdropWhile_eq_self_iff.mpr fun hne => h _ (List.getLast_mem hne)

@[simp] lemma trim_nil : trim p [] = [] := rfl

lemma trim_padding_left (h : ∀ x ∈ xs, p x) : trim p (xs ++ ys) = trim p ys := by
  rw [trim, List.dropWhile_append_of_pos h]
  rfl

lemma trim_padding_right (h : ∀ y ∈ ys, p y) : trim p (xs ++ ys) = trim p xs := by
  rw [trim, trim, List.dropWhile_append]
  split
  · next he =>
    rw [List.isEmpty_iff.mp he, List.dropWhile_eq_nil_iff.mpr h]
  · exact rdropWhile_padding h

lemma trim_rdropWhile (xs : List α) : trim p (xs.rdropWhile p) = trim p xs := by
  have h : ∀ y ∈ xs.rtakeWhile p, p y := fun y hy => List.mem_rtakeWhile_imp hy
  calc trim p (xs.rdropWhile p) = trim p (xs.rdropWhile p ++ xs.rtakeWhile p) :=
        (trim_padding_right h).symm
    _ = trim p xs := by rw [List.rdropWhile_append_rtakeWhile]

lemma trim_cons (x : α) (hx : ¬ p x) (xs : List α) : trim p (x :: xs) = x :: xs.rdropWhile p := by
  have hself : [x].rdropWhile p = [x] := rdropWhile_eq_self_of_forall (by simpa using hx)
  rw [trim, List.dropWhile_cons_of_neg hx]
  exact rdropWhile_append_self hself

lemma trim_word (hne : xs ≠ []) (h : ∀ x ∈ xs, ¬ p x) (ys : List α) :
    trim p (xs ++ ys) = xs ++ ys.rdropWhile p := by
  obtain ⟨x, xs, rfl⟩ := List.exists_cons_of_ne_nil hne
  rw [List.cons_append, trim_cons x (h x List.mem_cons_self)]
  rw [rdropWhile_append_self (rdropWhile_eq_self_of_forall fun y hy => h y (List.mem_cons_of_mem x hy))]
  rfl

lemma trim_eq_nil_iff : trim p xs = [] ↔ ∀ x ∈ xs, p x := by
  rw [trim, List.rdropWhile_eq_nil_iff]
  constructor
  · intro h x hx
    rw [← List.takeWhile_append_dropWhile (p := p) (l := xs)] at hx
    rcases List.mem_append.mp hx with ht | hd
    · exact List.mem_takeWhile_imp ht
    · exact h x hd
  · exact fun h x hx => h x ((List.dropWhile_sublist p).subset hx)

lemma head_trim {x : α} (h : trim p xs = x :: ys) : ¬ p x := by
  obtain ⟨zs, hz⟩ := List.rdropWhile_prefix p (xs.dropWhile p)
  rw [trim] at h
  rw [h, List.cons_append] at hz
  have := List.head?_dropWhile_not p xs
  rw [← hz] at this
  simpa using this

lemma first_word {x : α} (hx : ¬ p x) (h : xs = x :: ys) :
    (((xs.findIdx? p).map fun i => xs.take i).getD xs) ≠ [] ∧
      ∀ y ∈ ((xs.findIdx? p).map fun i => xs.take i).getD xs, ¬ p y := by
  cases hi : xs.findIdx? p with
  | none =>
    rw [List.findIdx?_eq_none_iff] at hi
    exact ⟨by simp [h], by simpa using hi⟩
  | some i =>
    obtain ⟨hlt, hpi, hbefore⟩ := List.findIdx?_eq_some_iff_getElem.mp hi
    rw [Option.map_some, Option.getD_some]
    constructor
    · cases i with
      | zero => simp [h, hx] at hpi
      | succ i => simp [h]
    · intro y hy
      obtain ⟨j, hj, rfl⟩ := List.mem_take_iff_getElem.mp hy
      exact hbefore j (by omega)

lemma length_trim_le (xs : List α) : (trim p xs).length ≤ xs.length :=
  (List.rdropWhile_prefix p _).length_le.trans (List.dropWhile_sublist p).length_le

lemma findIdx_word {q : α → Bool} {y : α} (h : ∀ x ∈ xs, ¬ q x) (hy : q y) (ys : List α) :
    (xs ++ y :: ys).findIdx? q = some xs.length := by
  induction xs with
  | nil => simp [List.findIdx?_cons, hy]
  | cons x xs ih =>
    have hx := h x List.mem_cons_self
    rw [List.cons_append, List.findIdx?_cons, if_neg hx, ih fun z hz => h z (List.mem_cons_of_mem x hz)]
    rfl

end PointerForce.Foundations.Delimiters
