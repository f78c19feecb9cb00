import Mathlib.Tactic

/-! Finite maps up to their contents, alone and nested in one another. -/

namespace PointerForce.Foundations.FiniteMaps

open Std

section Updates

variable {α γ : Type} [Ord α] [TransOrd α] [LawfulEqOrd α] [DecidableEq α]

lemma getElem?_insert (t : ExtTreeMap α γ) (k a : α) (v : γ) :
    (t.insert k v)[a]? = if k = a then some v else t[a]? := by
  rw [ExtTreeMap.getElem?_insert]
  exact if_congr LawfulEqCmp.compare_eq_iff_eq rfl rfl

lemma getElem?_erase (t : ExtTreeMap α γ) (k a : α) :
    (t.erase k)[a]? = if k = a then none else t[a]? := by
  rw [ExtTreeMap.getElem?_erase]
  exact if_congr LawfulEqCmp.compare_eq_iff_eq rfl rfl

lemma getElem?_foldl_insert (t u : ExtTreeMap α γ) (a : α) :
    (u.foldl (fun t k v => t.insert k v) t)[a]? = u[a]?.or t[a]? := by
  rw [ExtTreeMap.foldl_eq_foldl_toList, ← ExtTreeMap.insertMany_list_eq_foldl]
  cases h : u[a]? with
  | none =>
    apply ExtTreeMap.getElem?_insertMany_list_of_contains_eq_false
    rw [ExtTreeMap.map_fst_toList_eq_keys, List.contains_eq_mem, decide_eq_false_iff_not,
      ExtTreeMap.mem_keys, ← ExtTreeMap.isSome_getElem?_iff_mem, h]
    exact Bool.false_ne_true
  | some v =>
    exact ExtTreeMap.getElem?_insertMany_list_of_mem (LawfulEqCmp.compare_eq_iff_eq.mpr rfl)
      ExtTreeMap.distinct_keys_toList (ExtTreeMap.mem_toList_iff_getElem?_eq_some.mpr h)

end Updates

section Nested

variable {α β γ : Type} [Ord α] [TransOrd α] [Ord β] [TransOrd β]

def flat (t : ExtTreeMap α (ExtTreeMap β γ)) (a : α) (b : β) : Option γ := t[a]?.bind (·[b]?)

@[simp] lemma flat_empty (a : α) (b : β) : flat (∅ : ExtTreeMap α (ExtTreeMap β γ)) a b = none := by
  simp [flat]

lemma flat_eq_getD (t : ExtTreeMap α (ExtTreeMap β γ)) (a : α) (b : β) :
    flat t a b = (t.getD a ∅)[b]? := by
  rw [flat, ExtTreeMap.getD_eq_getD_getElem?]
  cases t[a]? <;> simp

lemma flat_insert [LawfulEqOrd α] [DecidableEq α] (t : ExtTreeMap α (ExtTreeMap β γ)) (k a : α)
    (sub : ExtTreeMap β γ) (b : β) :
    flat (t.insert k sub) a b = if k = a then sub[b]? else flat t a b := by
  simp only [flat, getElem?_insert]
  split <;> rfl

def entries (t : ExtTreeMap α (ExtTreeMap β γ)) : List (α × β × γ) :=
  t.toList.flatMap fun (a, sub) => sub.toList.map fun (b, c) => (a, b, c)

lemma mem_entries [LawfulEqOrd α] [LawfulEqOrd β] (t : ExtTreeMap α (ExtTreeMap β γ))
    {e : α × β × γ} : e ∈ entries t ↔ flat t e.1 e.2.1 = some e.2.2 := by
  obtain ⟨a, b, c⟩ := e
  simp only [entries, List.mem_flatMap, List.mem_map, Prod.exists, Prod.mk.injEq,
    ExtTreeMap.mem_toList_iff_getElem?_eq_some, flat, Option.bind_eq_some_iff]
  constructor
  · rintro ⟨a', sub, ha, b', c', hb, rfl, rfl, rfl⟩
    exact ⟨sub, ha, hb⟩
  · rintro ⟨sub, ha, hb⟩
    exact ⟨a, sub, ha, b, c, hb, rfl, rfl, rfl⟩

lemma nodup_entries (t : ExtTreeMap α (ExtTreeMap β γ)) :
    ((entries t).map fun e => (e.1, e.2.1)).Nodup := by
  rw [entries, List.map_flatMap, List.nodup_flatMap]
  constructor
  · rintro ⟨a, sub⟩ -
    have hn := (ExtTreeMap.nodup_keys (t := sub)).map (Prod.mk_right_injective a)
    rw [← ExtTreeMap.map_fst_toList_eq_keys, List.map_map] at hn
    rwa [List.map_map]
  · have hn := ExtTreeMap.nodup_keys (t := t)
    rw [← ExtTreeMap.map_fst_toList_eq_keys, List.Nodup, List.pairwise_map] at hn
    apply hn.imp
    rintro ⟨a, sub⟩ ⟨a', sub'⟩ hne x hx hx'
    simp only [List.mem_map, exists_exists_and_eq_and] at hx hx'
    obtain ⟨e, -, he⟩ := hx
    obtain ⟨e', -, he'⟩ := hx'
    exact hne (Prod.mk.inj (he.trans he'.symm)).1

end Nested

end PointerForce.Foundations.FiniteMaps
