import PointerForce.Foundations.Machines

/-! Histories of concurrent calls and their linearizations: sequential orders of the calls, all that
have been answered and some of the others, that a sequential machine goes through with the same
answers and that keep the order in which calls followed one another in time. -/

namespace PointerForce.Foundations.Linearizability

open Machines

variable {State Op Ret : Type}

inductive Event (Op Ret : Type) where
  | invoke (id : ℕ) (op : Op)
  | respond (id : ℕ) (ret : Ret)

structure Call (Op Ret : Type) where
  id : ℕ
  op : Op
  ret : Ret

def Event.id : Event Op Ret → ℕ
  | .invoke id _ | .respond id _ => id

abbrev History (Op Ret : Type) := List (Event Op Ret)

def Precedes {α : Type} (l : List α) (x y : α) : Prop := [x, y].Sublist l

def Legal (spec : State → Op → State × Ret) (s : State) (calls : List (Call Op Ret)) (t : State) :
    Prop := run spec s (calls.map Call.op) = (t, calls.map Call.ret)

structure Linearization (spec : State → Op → State × Ret) (start : State) (h : History Op Ret)
    (order : List (Call Op Ret)) (final : State) : Prop where
  nodup : (order.map Call.id).Nodup
  invoked : ∀ c ∈ order, .invoke c.id c.op ∈ h
  answered : ∀ id ret, .respond id ret ∈ h → ∃ c ∈ order, c.id = id ∧ c.ret = ret
  legal : Legal spec start order final
  realTime : ∀ a ∈ order, ∀ b ∈ order,
    Precedes h (.respond a.id a.ret) (.invoke b.id b.op) → Precedes order a b

def Linearizable (spec : State → Op → State × Ret) (start : State) (h : History Op Ret)
    (final : State) : Prop := ∃ order, Linearization spec start h order final

section Order

variable {α : Type} {l l' : List α} {x y z : α}

lemma Precedes.mem (h : Precedes l x y) : x ∈ l ∧ y ∈ l :=
  ⟨h.subset (by simp), h.subset (by simp)⟩

lemma Precedes.of_append (h : Precedes (l ++ l') x y) (hy : y ∉ l') : Precedes l x y := by
  obtain ⟨l₁, l₂, he, h₁, h₂⟩ := List.sublist_append_iff.mp h
  rcases List.eq_nil_or_concat l₂ with rfl | ⟨l₃, z, rfl⟩
  · rw [Precedes, he, List.append_nil]
    exact h₁
  · have hz : y = z := by
      have hr := congrArg List.getLast? he
      rw [List.concat_eq_append, ← List.append_assoc, List.getLast?_concat] at hr
      exact Option.some.inj hr
    exact absurd (h₂.subset (by simp [hz])) hy

lemma precedes_middle (h : x ∈ l) : Precedes (l ++ z :: l') x z := by
  have hl := (List.singleton_sublist.mpr h).append
    (List.singleton_sublist.mpr (List.mem_cons_self (a := z) (l := l')))
  exact hl

end Order

section Legality

variable {spec : State → Op → State × Ret} {s t u : State} {calls calls' : List (Call Op Ret)}
  {c : Call Op Ret}

lemma legal_nil : Legal spec s [] t ↔ s = t := by simp [Legal]

lemma legal_cons : Legal spec s (c :: calls) t ↔
    (spec s c.op).2 = c.ret ∧ Legal spec (spec s c.op).1 calls t := by
  simp only [Legal, List.map_cons, run_cons, Prod.ext_iff, List.cons.injEq]
  tauto

lemma legal_append : Legal spec s (calls ++ calls') t ↔
    ∃ u, Legal spec s calls u ∧ Legal spec u calls' t := by
  induction calls generalizing s with
  | nil => simp [legal_nil]
  | cons c calls ih => simp only [List.cons_append, legal_cons, ih, exists_and_left, and_assoc]

lemma Legal.unique (h : Legal spec s calls t) (h' : Legal spec s calls u) : t = u :=
  (Prod.mk.inj (h.symm.trans h')).1

lemma Legal.snoc (h : Legal spec s calls t) (hc : spec t c.op = (u, c.ret)) :
    Legal spec s (calls ++ [c]) u :=
  legal_append.mpr ⟨t, h, legal_cons.mpr (by simp [hc, legal_nil])⟩

lemma Legal.congr {spec' : State → Op → State × Ret} (h : ∀ c ∈ calls, ∀ s, spec s c.op = spec' s c.op)
    (hl : Legal spec s calls t) : Legal spec' s calls t := by
  induction calls generalizing s with
  | nil => exact legal_nil.mpr (legal_nil.mp hl)
  | cons c calls ih =>
    rw [legal_cons, h c List.mem_cons_self] at hl
    exact legal_cons.mpr ⟨hl.1, ih (fun b hb => h b (List.mem_cons_of_mem c hb)) hl.2⟩

end Legality

namespace Linearization

variable {spec : State → Op → State × Ret} {start final final' : State} {h : History Op Ret}
  {order pre post : List (Call Op Ret)} {c : Call Op Ret}

lemma nil (spec : State → Op → State × Ret) (start : State) :
    Linearization spec start [] [] start := by
  refine ⟨?_, ?_, ?_, legal_nil.mpr rfl, ?_⟩ <;> simp

lemma invoke (hl : Linearization spec start h order final) {id : ℕ} (op : Op)
    (hid : id ∉ order.map Call.id) :
    Linearization spec start (h ++ [.invoke id op]) order final := by
  refine ⟨hl.nodup, fun c hc => List.mem_append_left _ (hl.invoked c hc), ?_, hl.legal, ?_⟩
  · intro id' ret hr
    rcases List.mem_append.mp hr with hr | hr
    · exact hl.answered id' ret hr
    · simp at hr
  · intro a ha b hb hp
    refine hl.realTime a ha b hb (hp.of_append fun he => hid ?_)
    exact List.mem_map.mpr ⟨b, hb, (Event.invoke.inj (List.mem_singleton.mp he)).1⟩

lemma respond (hl : Linearization spec start h order final) (hc : c ∈ order) :
    Linearization spec start (h ++ [.respond c.id c.ret]) order final := by
  refine ⟨hl.nodup, fun c hc => List.mem_append_left _ (hl.invoked c hc), ?_, hl.legal, ?_⟩
  · intro id ret hr
    rcases List.mem_append.mp hr with hr | hr
    · exact hl.answered id ret hr
    · obtain ⟨rfl, rfl⟩ := Event.respond.inj (List.mem_singleton.mp hr)
      exact ⟨c, hc, rfl, rfl⟩
  · intro a ha b hb hp
    exact hl.realTime a ha b hb (hp.of_append (by simp))

lemma insert (hl : Linearization spec start h (pre ++ post) final)
    (hid : c.id ∉ (pre ++ post).map Call.id) (hinvoked : .invoke c.id c.op ∈ h)
    (hpending : ∀ ret, .respond c.id ret ∉ h)
    (hpost : ∀ b ∈ post, ¬ Precedes h (.respond b.id b.ret) (.invoke c.id c.op))
    (hlegal : Legal spec start (pre ++ c :: post) final') :
    Linearization spec start h (pre ++ c :: post) final' := by
  have hmem : ∀ a, a ∈ pre ++ c :: post → a = c ∨ a ∈ pre ++ post := by
    intro a ha
    simp only [List.mem_append, List.mem_cons] at ha ⊢
    tauto
  have hperm : (pre ++ c :: post).Perm (c :: (pre ++ post)) := List.perm_middle
  refine ⟨?_, ?_, ?_, hlegal, ?_⟩
  · rw [(hperm.map Call.id).nodup_iff, List.map_cons, List.nodup_cons]
    exact ⟨hid, hl.nodup⟩
  · intro a ha
    rcases hmem a ha with rfl | ha
    · exact hinvoked
    · exact hl.invoked a ha
  · intro id ret hr
    obtain ⟨a, ha, he⟩ := hl.answered id ret hr
    exact ⟨a, hperm.mem_iff.mpr (List.mem_cons_of_mem c ha), he⟩
  · intro a ha b hb hp
    rcases hmem a ha with rfl | ha'
    · exact absurd hp.mem.1 (hpending _)
    · rcases hmem b hb with rfl | hb'
      · rcases List.mem_append.mp ha' with ha' | ha'
        · exact precedes_middle ha'
        · exact absurd hp (hpost a ha')
      · have hsub : (pre ++ post).Sublist (pre ++ c :: post) :=
          (List.Sublist.refl pre).append (List.sublist_cons_self c post)
        exact (hl.realTime a ha' b hb' hp).trans hsub

lemma snoc (hl : Linearization spec start h order final) (hid : c.id ∉ order.map Call.id)
    (hinvoked : .invoke c.id c.op ∈ h) (hpending : ∀ ret, .respond c.id ret ∉ h)
    (hc : spec final c.op = (final', c.ret)) :
    Linearization spec start h (order ++ [c]) final' := by
  rw [← List.append_nil order] at hl hid
  exact hl.insert hid hinvoked hpending (by simp)
    ((List.append_nil order ▸ hl.legal : Legal spec start order final).snoc hc)

lemma congr {spec' : State → Op → State × Ret} (hl : Linearization spec start h order final)
    (hop : ∀ id op, .invoke id op ∈ h → ∀ s, spec s op = spec' s op) :
    Linearization spec' start h order final :=
  ⟨hl.nodup, hl.invoked, hl.answered,
    hl.legal.congr fun c hc => hop c.id c.op (hl.invoked c hc), hl.realTime⟩

end Linearization

end PointerForce.Foundations.Linearizability
