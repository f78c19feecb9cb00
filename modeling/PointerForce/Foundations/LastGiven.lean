import Mathlib.Tactic

/-! The last value that a list of optional values gives: what remains of a sequence of assignments
each of which may be left out. -/

namespace PointerForce.Foundations

variable {α : Type}

def lastGiven : List (Option α) → Option α
  | [] => none
  | v :: vs => (lastGiven vs).or v

namespace LastGiven

@[simp] lemma nil : lastGiven ([] : List (Option α)) = none := rfl

@[simp] lemma cons (v : Option α) (vs : List (Option α)) :
    lastGiven (v :: vs) = (lastGiven vs).or v := rfl

lemma append (vs ws : List (Option α)) :
    lastGiven (vs ++ ws) = (lastGiven ws).or (lastGiven vs) := by
  induction vs with
  | nil => simp
  | cons v vs ih => simp [ih, Option.or_assoc]

lemma map_filterMap {β γ : Type} (f : β → Option γ) (g : γ → Option α) (xs : List β) :
    lastGiven ((xs.filterMap f).map g) = lastGiven (xs.map fun x => (f x).bind g) := by
  induction xs with
  | nil => rfl
  | cons x xs ih => cases h : f x <;> simp [h, ih]

lemma foldl_getD (vs : List (Option α)) (a : α) :
    vs.foldl (fun a v => v.getD a) a = (lastGiven vs).getD a := by
  induction vs generalizing a with
  | nil => rfl
  | cons v vs ih => rw [List.foldl_cons, ih, cons, Option.getD_or]

lemma dropLast_getLast {vs : List (Option α)} (h : vs ≠ []) :
    lastGiven vs = (vs.getLast h).or (lastGiven vs.dropLast) := by
  conv_lhs => rw [← List.dropLast_append_getLast h, append]
  simp

lemma getD_eq_getLast_iff {vs : List (Option α)} (h : vs ≠ []) (a : α) :
    (lastGiven vs).getD a = (vs.getLast h).getD a ↔
      (vs.getLast h).isSome ∨ ∀ b, lastGiven vs.dropLast = some b → b = a := by
  rw [dropLast_getLast h]
  cases vs.getLast h with
  | some c => simp
  | none => cases lastGiven vs.dropLast <;> simp [eq_comm]

end LastGiven

end PointerForce.Foundations
