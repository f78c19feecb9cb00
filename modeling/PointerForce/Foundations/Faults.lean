import Mathlib.Tactic

/-! Programs that raise: pure ones in `Except`, and ones with a state that keeps what was written
before the fault in `EStateM`. -/

namespace PointerForce.Foundations

variable {ε σ α β : Type}

instance raising : MonadLift (Except ε) (EStateM ε σ) where
  monadLift
    | .ok a => pure a
    | .error e => throw e

namespace Faults

@[simp] lemma ok_bind (a : α) (f : α → Except ε β) : (Except.ok a >>= f) = f a := rfl

@[simp] lemma error_bind (e : ε) (f : α → Except ε β) : (Except.error e >>= f) = .error e := rfl

lemma bind_eq_ok {x : Except ε α} {f : α → Except ε β} {b : β} :
    (x >>= f) = .ok b ↔ ∃ a, x = .ok a ∧ f a = .ok b := by
  cases x with
  | ok a => simp
  | error e => simp

lemma check_bind_eq_ok {x : Except ε Unit} {f : Unit → Except ε β} {b : β} :
    (x >>= f) = .ok b ↔ x = .ok () ∧ f () = .ok b := by
  cases x with
  | ok a => simp
  | error e => simp

lemma forM_ok_iff {f : α → Except ε Unit} {xs : List α} :
    forM xs f = .ok () ↔ ∀ x ∈ xs, f x = .ok () := by
  induction xs with
  | nil => simp [pure, Except.pure]
  | cons x xs ih => simp [check_bind_eq_ok, ih]

lemma run_lift_ok {x : Except ε α} {a : α} (h : x = .ok a) (s : σ) :
    (liftM x : EStateM ε σ α).run s = .ok a s := by
  rw [h]
  rfl

lemma run_lift_error {x : Except ε α} {e : ε} (h : x = .error e) (s : σ) :
    (liftM x : EStateM ε σ α).run s = .error e s := by
  rw [h]
  rfl

lemma foldlM_ok {f : β → α → Except ε β} {g : β → α → β} {xs : List α}
    (h : ∀ x ∈ xs, ∀ b, f b x = .ok (g b x)) (b : β) : xs.foldlM f b = .ok (xs.foldl g b) := by
  induction xs generalizing b with
  | nil => rfl
  | cons x xs ih =>
    rw [List.foldlM_cons, h x List.mem_cons_self, ok_bind, List.foldl_cons]
    exact ih (fun y hy => h y (List.mem_cons_of_mem x hy)) _

lemma mapM_map_ok {γ : Type} {f : β → Except ε γ} {g : α → β} {k : α → γ}
    (h : ∀ x, f (g x) = .ok (k x)) (xs : List α) : (xs.map g).mapM f = .ok (xs.map k) := by
  induction xs with
  | nil => rfl
  | cons x xs ih =>
    rw [List.map_cons, List.mapM_cons, h, ok_bind, ih]
    rfl

lemma foldlM_raises {f : β → α → Except ε β} {xs : List α}
    (h : ∃ x ∈ xs, ∀ b, ∃ e, f b x = .error e) (b : β) : ∃ e, xs.foldlM f b = .error e := by
  induction xs generalizing b with
  | nil => simp at h
  | cons x xs ih =>
    rw [List.foldlM_cons]
    cases hx : f b x with
    | error e => exact ⟨e, rfl⟩
    | ok b' =>
      obtain ⟨y, hy, hf⟩ := h
      rcases List.mem_cons.mp hy with rfl | hy
      · obtain ⟨e, he⟩ := hf b
        rw [he] at hx
        cases hx
      · exact ih ⟨y, hy, hf⟩ b'

section Kept

variable {γ : Type} (f : σ → γ) {s : σ}

/-- Run in the state `s`, the program leaves `f` of the state as it is, unless it raises. -/
def Keeps (x : EStateM ε σ α) (s : σ) : Prop := ∀ a t, x.run s = .ok a t → f t = f s

variable {f}

lemma keeps_bind {x : EStateM ε σ α} {k : α → EStateM ε σ β} (hx : Keeps f x s)
    (hk : ∀ a t, x.run s = .ok a t → Keeps f (k a) t) : Keeps f (x >>= k) s := by
  intro b u h
  rw [EStateM.run_bind] at h
  cases hr : x.run s with
  | ok a t =>
    rw [hr] at h
    exact (hk a t hr b u h).trans (hx a t hr)
  | error e t =>
    rw [hr] at h
    cases h

lemma keeps_lift (x : Except ε α) : Keeps f (liftM x : EStateM ε σ α) s := by
  intro a t h
  cases x with
  | ok a => cases h; rfl
  | error e => cases h

lemma keeps_lift_bind (x : Except ε α) {k : α → EStateM ε σ β}
    (h : ∀ a, x = .ok a → Keeps f (k a) s) : Keeps f (liftM x >>= k) s := by
  refine keeps_bind (keeps_lift x) fun a t ht => ?_
  cases x with
  | ok b =>
    cases ht
    exact h a rfl
  | error e => cases ht

lemma keeps_get_bind {k : σ → EStateM ε σ β} (h : Keeps f (k s) s) : Keeps f (get >>= k) s := h

end Kept

end Faults

end PointerForce.Foundations
