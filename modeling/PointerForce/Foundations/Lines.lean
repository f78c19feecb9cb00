import Mathlib.Tactic

/-! Streams cut into lines by a reader that keeps what is not yet ended for its next read. -/

namespace PointerForce.Foundations.Lines

variable {α : Type} (ends : α → Bool)

structure Line (α : Type) where
  text : List α
  last : α
  deriving DecidableEq, Repr

def Line.full (l : Line α) : List α := l.text ++ [l.last]

def cut : List α → Option (Line α × List α)
  | [] => none
  | x :: xs =>
    if ends x then some (⟨[], x⟩, xs)
    else (cut xs).map fun (l, rest) => (⟨x :: l.text, l.last⟩, rest)

lemma length_cut {xs rest : List α} {l : Line α} (h : cut ends xs = some (l, rest)) :
    rest.length < xs.length := by
  induction xs generalizing l with
  | nil => cases h
  | cons x xs ih =>
    rw [cut] at h
    split_ifs at h
    · obtain ⟨-, rfl⟩ := Prod.mk.inj (Option.some.inj h)
      simp
    · obtain ⟨⟨l', rest'⟩, hc, he⟩ := Option.map_eq_some_iff.mp h
      obtain ⟨-, rfl⟩ := Prod.mk.inj he
      exact (ih hc).trans (Nat.lt_succ_self _)

def lines (xs : List α) : List (Line α) :=
  match _h : cut ends xs with
  | none => []
  | some (l, rest) => l :: lines rest
termination_by xs.length
decreasing_by exact length_cut ends _h

def tail (xs : List α) : List α :=
  match _h : cut ends xs with
  | none => xs
  | some (_, rest) => tail rest
termination_by xs.length
decreasing_by exact length_cut ends _h

variable {ends} {xs ys rest : List α} {l : Line α}

lemma lines_none (h : cut ends xs = none) : lines ends xs = [] := by
  rw [lines]
  split
  · rfl
  · next hs => rw [h] at hs; cases hs

@[simp] lemma lines_nil : lines ends [] = [] := lines_none rfl

lemma lines_some (h : cut ends xs = some (l, rest)) : lines ends xs = l :: lines ends rest := by
  rw [lines]
  split
  · next hs => rw [h] at hs; cases hs
  · next hs =>
    rw [h] at hs
    obtain ⟨rfl, rfl⟩ := Prod.mk.inj (Option.some.inj hs)
    rfl

lemma tail_none (h : cut ends xs = none) : tail ends xs = xs := by
  rw [tail]
  split
  · rfl
  · next hs => rw [h] at hs; cases hs

@[simp] lemma tail_nil : tail ends [] = [] := tail_none rfl

lemma tail_some (h : cut ends xs = some (l, rest)) : tail ends xs = tail ends rest := by
  rw [tail]
  split
  · next hs => rw [h] at hs; cases hs
  · next hs =>
    rw [h] at hs
    obtain ⟨rfl, rfl⟩ := Prod.mk.inj (Option.some.inj hs)
    rfl

lemma cut_append (h : cut ends xs = some (l, rest)) (ys : List α) :
    cut ends (xs ++ ys) = some (l, rest ++ ys) := by
  induction xs generalizing l with
  | nil => cases h
  | cons x xs ih =>
    rw [cut] at h
    rw [List.cons_append, cut]
    split_ifs at h ⊢
    · obtain ⟨rfl, rfl⟩ := Prod.mk.inj (Option.some.inj h)
      rfl
    · obtain ⟨⟨l', rest'⟩, hc, he⟩ := Option.map_eq_some_iff.mp h
      obtain ⟨rfl, rfl⟩ := Prod.mk.inj he
      rw [ih hc]
      rfl

lemma cut_eq_none_iff : cut ends xs = none ↔ ∀ x ∈ xs, ends x = false := by
  induction xs with
  | nil => simp [cut]
  | cons x xs ih =>
    rw [cut]
    split_ifs with hx <;> simp [hx, ih]

lemma cut_induction (ends : α → Bool) {motive : List α → Prop}
    (unended : ∀ xs, cut ends xs = none → motive xs)
    (line : ∀ xs l rest, cut ends xs = some (l, rest) → motive rest → motive xs) (xs : List α) :
    motive xs := by
  induction h : xs.length using Nat.strong_induction_on generalizing xs with
  | _ n ih =>
    subst h
    cases hc : cut ends xs with
    | none => exact unended xs hc
    | some p => exact line xs p.1 p.2 hc (ih _ (length_cut ends hc) p.2 rfl)

lemma lines_append (xs ys : List α) :
    lines ends (xs ++ ys) = lines ends xs ++ lines ends (tail ends xs ++ ys) := by
  induction xs using cut_induction ends with
  | unended xs h => rw [lines_none h, tail_none h, List.nil_append]
  | line xs l rest h ih =>
    rw [lines_some h, tail_some h, lines_some (cut_append h ys), ih, List.cons_append]

lemma tail_append (xs ys : List α) : tail ends (xs ++ ys) = tail ends (tail ends xs ++ ys) := by
  induction xs using cut_induction ends with
  | unended xs h => rw [tail_none h]
  | line xs l rest h ih => rw [tail_some h, tail_some (cut_append h ys), ih]

lemma cut_tail (xs : List α) : cut ends (tail ends xs) = none := by
  induction xs using cut_induction ends with
  | unended xs h => rwa [tail_none h]
  | line xs l rest h ih => rwa [tail_some h]

lemma append_unended (xs : List α) (h : ∀ y ∈ ys, ends y = false) :
    lines ends (xs ++ ys) = lines ends xs ∧ tail ends (xs ++ ys) = tail ends xs ++ ys := by
  have hc : cut ends (tail ends xs ++ ys) = none := by
    rw [cut_eq_none_iff]
    intro x hx
    rcases List.mem_append.mp hx with hx | hx
    · exact cut_eq_none_iff.mp (cut_tail xs) x hx
    · exact h x hx
  rw [lines_append, tail_append, lines_none hc, tail_none hc, List.append_nil]
  exact ⟨rfl, rfl⟩

lemma cut_line {text : List α} (h : ∀ x ∈ text, ends x = false) {x : α} (hx : ends x = true)
    (rest : List α) : cut ends (text ++ x :: rest) = some (⟨text, x⟩, rest) := by
  induction text with
  | nil => simp [cut, hx]
  | cons y text ih =>
    have hy := h y List.mem_cons_self
    rw [List.cons_append, cut, hy, ih fun z hz => h z (List.mem_cons_of_mem y hz)]
    rfl

lemma append_ended (xs : List α) {text : List α} (h : ∀ y ∈ text, ends y = false) {x : α}
    (hx : ends x = true) :
    lines ends (xs ++ (text ++ [x])) = lines ends xs ++ [⟨tail ends xs ++ text, x⟩] ∧
      tail ends (xs ++ (text ++ [x])) = [] := by
  have htext : ∀ y ∈ tail ends xs ++ text, ends y = false := by
    intro y hy
    rcases List.mem_append.mp hy with hy | hy
    · exact cut_eq_none_iff.mp (cut_tail xs) y hy
    · exact h y hy
  have hc : cut ends (tail ends xs ++ (text ++ [x])) = some (⟨tail ends xs ++ text, x⟩, []) := by
    rw [← List.append_assoc]
    exact cut_line htext hx []
  rw [lines_append, tail_append, lines_some hc, tail_some hc, lines_nil, tail_nil]
  exact ⟨rfl, rfl⟩

lemma eq_of_cut (h : cut ends xs = some (l, rest)) : xs = l.full ++ rest := by
  induction xs generalizing l with
  | nil => cases h
  | cons x xs ih =>
    rw [cut] at h
    split_ifs at h
    · obtain ⟨rfl, rfl⟩ := Prod.mk.inj (Option.some.inj h)
      rfl
    · obtain ⟨⟨l', rest'⟩, hc, he⟩ := Option.map_eq_some_iff.mp h
      obtain ⟨rfl, rfl⟩ := Prod.mk.inj he
      rw [ih hc]
      rfl

lemma flatMap_lines_append_tail (xs : List α) :
    (lines ends xs).flatMap Line.full ++ tail ends xs = xs := by
  induction xs using cut_induction ends with
  | unended xs h => rw [lines_none h, tail_none h, List.flatMap_nil, List.nil_append]
  | line xs l rest h ih =>
    rw [lines_some h, tail_some h, List.flatMap_cons, List.append_assoc, ih, ← eq_of_cut h]

lemma lines_flatMap {written : List (Line α)}
    (h : ∀ l ∈ written, (∀ x ∈ l.text, ends x = false) ∧ ends l.last = true) :
    lines ends (written.flatMap Line.full) = written ∧
      tail ends (written.flatMap Line.full) = [] := by
  induction written with
  | nil => exact ⟨lines_nil, tail_nil⟩
  | cons l written ih =>
    obtain ⟨htext, hlast⟩ := h l List.mem_cons_self
    obtain ⟨hl, ht⟩ := ih fun m hm => h m (List.mem_cons_of_mem l hm)
    have hc := cut_line htext hlast (written.flatMap Line.full)
    have he : (l :: written).flatMap Line.full =
        l.text ++ l.last :: written.flatMap Line.full := by
      simp [Line.full]
    rw [he, lines_some hc, tail_some hc, hl, ht]
    exact ⟨rfl, rfl⟩

section Maps

variable {β : Type} (f : α → β) {mapped : β → Bool}

def Line.map (l : Line α) : Line β := ⟨l.text.map f, f l.last⟩

lemma cut_map (h : ∀ x, mapped (f x) = ends x) (xs : List α) :
    cut mapped (xs.map f) = (cut ends xs).map fun p => (p.1.map f, p.2.map f) := by
  induction xs with
  | nil => rfl
  | cons x xs ih =>
    rw [List.map_cons, cut, cut, h]
    split_ifs with hx
    · rfl
    · rw [ih]
      cases cut ends xs <;> rfl

lemma lines_map (h : ∀ x, mapped (f x) = ends x) (xs : List α) :
    lines mapped (xs.map f) = (lines ends xs).map (Line.map f) ∧
      tail mapped (xs.map f) = (tail ends xs).map f := by
  induction xs using cut_induction ends with
  | unended xs hc =>
    have hm : cut mapped (xs.map f) = none := by rw [cut_map f h, hc, Option.map_none]
    rw [lines_none hc, tail_none hc, lines_none hm, tail_none hm]
    exact ⟨rfl, rfl⟩
  | line xs l rest hc ih =>
    have hm : cut mapped (xs.map f) = some (l.map f, rest.map f) := by
      rw [cut_map f h, hc, Option.map_some]
    rw [lines_some hc, tail_some hc, lines_some hm, tail_some hm, ih.1, ih.2]
    exact ⟨rfl, rfl⟩

end Maps

end PointerForce.Foundations.Lines
