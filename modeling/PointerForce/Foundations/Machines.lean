import Mathlib.Tactic

/-! Machines that answer every operation, their runs, and simulations between two of them. -/

namespace PointerForce.Foundations.Machines

variable {State Spec Op Out : Type}

def run (step : State → Op → State × Out) : State → List Op → State × List Out
  | s, [] => (s, [])
  | s, op :: ops =>
    let (t, out) := step s op
    let (u, outs) := run step t ops
    (u, out :: outs)

section Runs

variable (step : State → Op → State × Out) (s : State)

@[simp] lemma run_nil : run step s [] = (s, []) := rfl

lemma run_cons (op : Op) (ops : List Op) : run step s (op :: ops) =
    ((run step (step s op).1 ops).1, (step s op).2 :: (run step (step s op).1 ops).2) := rfl

variable {step s}

lemma run_invariant {inv : State → Prop} (hstep : ∀ s op, inv s → inv (step s op).1) (hs : inv s)
    (ops : List Op) : inv (run step s ops).1 := by
  induction ops generalizing s with
  | nil => exact hs
  | cons op ops ih => exact ih (hstep s op hs)

lemma run_outputs {good : Out → Prop} (hstep : ∀ s op, good (step s op).2) (ops : List Op) :
    ∀ out ∈ (run step s ops).2, good out := by
  induction ops generalizing s with
  | nil => simp
  | cons op ops ih =>
    rw [run_cons]
    exact List.forall_mem_cons.mpr ⟨hstep s op, ih⟩

end Runs

/-- Each step of the machine gives the output of the specification's step and keeps `abs`. -/
def Simulates (step : State → Op → State × Out) (spec : Spec → Op → Spec × Out)
    (abs : State → Spec) : Prop :=
  ∀ s op, abs (step s op).1 = (spec (abs s) op).1 ∧ (step s op).2 = (spec (abs s) op).2

lemma Simulates.run {step : State → Op → State × Out} {spec : Spec → Op → Spec × Out}
    {abs : State → Spec} (h : Simulates step spec abs) (s : State) (ops : List Op) :
    abs (run step s ops).1 = (run spec (abs s) ops).1 ∧
      (run step s ops).2 = (run spec (abs s) ops).2 := by
  induction ops generalizing s with
  | nil => exact ⟨rfl, rfl⟩
  | cons op ops ih =>
    obtain ⟨hs, ho⟩ := h s op
    obtain ⟨ht, hos⟩ := ih (step s op).1
    rw [hs] at ht hos
    exact ⟨ht, by simp only [run_cons, ho, hos]⟩

section Views

variable {SpecOp SpecOut : Type} (view : Op → Option SpecOp) (result : Out → SpecOut)

def SimulatesSeen (step : State → Op → State × Out) (spec : Spec → SpecOp → Spec × SpecOut)
    (abs : State → Spec) (op : Op) : Prop :=
  ∀ s, match view op with
    | some seen => abs (step s op).1 = (spec (abs s) seen).1 ∧
        result (step s op).2 = (spec (abs s) seen).2
    | none => abs (step s op).1 = abs s

def SeenAt (step : State → Op → State × Out) (spec : Spec → SpecOp → Spec × SpecOut)
    (abs : State → Spec) (op : Op) (s : State) : Prop :=
  match view op with
  | some seen => abs (step s op).1 = (spec (abs s) seen).1 ∧
      result (step s op).2 = (spec (abs s) seen).2
  | none => abs (step s op).1 = abs s

def seenOutputs (ops : List Op) (outs : List Out) : List SpecOut :=
  (ops.zip outs).filterMap fun p => (view p.1).map fun _ => result p.2

variable {view result}

lemma seenOutputs_cons (op : Op) (ops : List Op) (out : Out) (outs : List Out) :
    seenOutputs view result (op :: ops) (out :: outs) =
      match view op with
      | some _ => result out :: seenOutputs view result ops outs
      | none => seenOutputs view result ops outs := by
  rw [seenOutputs, List.zip_cons_cons, List.filterMap_cons]
  cases view op <;> rfl

section Invariants

variable {step : State → Op → State × Out} {spec : Spec → SpecOp → Spec × SpecOut}
  {abs : State → Spec} {inv good : State → Prop} {ops : List Op}

lemma run_back (hback : ∀ op ∈ ops, ∀ s, good (step s op).1 → good s) {s : State}
    (h : good (run step s ops).1) : good s := by
  induction ops generalizing s with
  | nil => exact h
  | cons op ops ih =>
    exact hback op List.mem_cons_self s (ih (fun o ho => hback o (List.mem_cons_of_mem op ho)) h)

/-- `good` is a property of what happens that is known of the end of the run, and so of every state
in it. -/
lemma run_seen_inv (hback : ∀ op ∈ ops, ∀ s, good (step s op).1 → good s)
    (hstep : ∀ op ∈ ops, ∀ s, inv s → good (step s op).1 →
      inv (step s op).1 ∧ SeenAt view result step spec abs op s)
    {s : State} (hs : inv s) (hgood : good (run step s ops).1) : inv (run step s ops).1 ∧
      abs (run step s ops).1 = (run spec (abs s) (ops.filterMap view)).1 ∧
      seenOutputs view result ops (run step s ops).2 = (run spec (abs s) (ops.filterMap view)).2 := by
  induction ops generalizing s with
  | nil => exact ⟨hs, rfl, rfl⟩
  | cons op ops ih =>
    have hrest : ∀ o ∈ ops, o ∈ op :: ops := fun o ho => List.mem_cons_of_mem op ho
    have hback' : ∀ o ∈ ops, ∀ s, good (step s o).1 → good s := fun o ho => hback o (hrest o ho)
    obtain ⟨hinv, hop⟩ := hstep op List.mem_cons_self s hs (run_back hback' hgood)
    obtain ⟨hend, ht, hos⟩ := ih hback' (fun o ho => hstep o (hrest o ho)) hinv hgood
    rw [run_cons, seenOutputs_cons, List.filterMap_cons]
    rw [SeenAt] at hop
    refine ⟨hend, ?_⟩
    cases hv : view op with
    | none =>
      rw [hv] at hop
      rw [hop] at ht hos
      exact ⟨ht, hos⟩
    | some seen =>
      rw [hv] at hop
      obtain ⟨hs, ho⟩ := hop
      rw [hs] at ht hos
      exact ⟨ht, by simp only [run_cons, ho, hos]⟩

end Invariants

lemma run_seen {step : State → Op → State × Out} {spec : Spec → SpecOp → Spec × SpecOut}
    {abs : State → Spec} {ops : List Op} (h : ∀ op ∈ ops, SimulatesSeen view result step spec abs op)
    (s : State) : abs (run step s ops).1 = (run spec (abs s) (ops.filterMap view)).1 ∧
      seenOutputs view result ops (run step s ops).2 = (run spec (abs s) (ops.filterMap view)).2 := by
  let everywhere : State → Prop := fun _ => True
  have hback : ∀ op ∈ ops, ∀ s, everywhere (step s op).1 → everywhere s := fun _ _ _ h => h
  have hstep : ∀ op ∈ ops, ∀ s, everywhere s → everywhere (step s op).1 →
      everywhere (step s op).1 ∧ SeenAt view result step spec abs op s :=
    fun op hop s hs _ => ⟨hs, h op hop s⟩
  exact (run_seen_inv hback hstep trivial trivial).2

end Views

end PointerForce.Foundations.Machines
