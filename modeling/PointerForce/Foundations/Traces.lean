import Mathlib.Tactic

/-! Statements about the order of the events in a trace that grows at its end. -/

namespace PointerForce.Foundations.Traces

variable {α : Type}

def Always (ok : List α → α → Prop) (trace : List α) : Prop :=
  ∀ pre x post, trace = pre ++ x :: post → ok pre x

def Followed (x y : α) (trace : List α) : Prop := ∀ pre post, trace = pre ++ x :: post → y ∈ post

variable {ok : List α → α → Prop} {x y z : α} {trace : List α}

lemma always_nil : Always ok [] := by
  intro pre x post h
  simp at h

lemma split_append {pre post : List α} (h : trace ++ [z] = pre ++ x :: post) :
    (post = [] ∧ z = x ∧ trace = pre) ∨ ∃ post', post = post' ++ [z] ∧ trace = pre ++ x :: post' := by
  rcases List.eq_nil_or_concat' post with rfl | ⟨post', w, rfl⟩
  · obtain ⟨rfl, hx⟩ := List.append_inj' h rfl
    exact .inl ⟨rfl, List.singleton_inj.mp hx, rfl⟩
  · rw [← List.cons_append, ← List.append_assoc] at h
    obtain ⟨rfl, hw⟩ := List.append_inj' h rfl
    exact .inr ⟨post', by rw [List.singleton_inj.mp hw], rfl⟩

lemma always_append : Always ok (trace ++ [z]) ↔ Always ok trace ∧ ok trace z := by
  constructor
  · intro h
    refine ⟨fun pre x post htrace => ?_, h trace z [] rfl⟩
    exact h pre x (post ++ [z]) (by rw [htrace, List.append_assoc, List.cons_append])
  · rintro ⟨htrace, hz⟩ pre x post hsplit
    rcases split_append hsplit with ⟨-, rfl, rfl⟩ | ⟨post', -, hpre⟩
    · exact hz
    · exact htrace pre x post' hpre

lemma followed_nil : Followed x y [] := by
  intro pre post h
  simp at h

lemma followed_append (h : Followed x y trace) (hz : z ≠ x) : Followed x y (trace ++ [z]) := by
  intro pre post hsplit
  rcases split_append hsplit with ⟨-, he, -⟩ | ⟨post', rfl, hpre⟩
  · exact absurd he hz
  · exact List.mem_append_left _ (h pre post' hpre)

lemma followed_append_self (trace : List α) (hxy : y ≠ x) : Followed x y (trace ++ [y]) := by
  intro pre post hsplit
  rcases split_append hsplit with ⟨-, he, -⟩ | ⟨post', rfl, -⟩
  · exact absurd he hxy
  · exact List.mem_append_right _ List.mem_cons_self

end PointerForce.Foundations.Traces
