import PointerForce.Daemon.Mapper
import PointerForce.Foundations.Machines

/-! What the mapper is for: one partial map from a device id and a key code to a command. -/

namespace PointerForce.Daemon.Mapper

open Foundations Foundations.FiniteMaps Foundations.Machines

abbrev BindingMap := String → ℤ → Option String

namespace BindingMap

def empty : BindingMap := fun _ _ => none

def update (M : BindingMap) (deviceId : String) (code : ℤ) (cmd : Option String) : BindingMap :=
  fun d c => if d = deviceId ∧ c = code then cmd else M d c

def ofConfig (config : Config) : BindingMap := lastBinding config.devices

end BindingMap

inductive Op where
  | init (config : Config)
  | add (deviceId keyName cmd : String)
  | remove (deviceId keyName : String)

variable (K : KeyCodes)

def call (table : Table) : Op → Table × Option Bool
  | .init config => (init table config, none)
  | .add deviceId keyName cmd => (addBinding K table deviceId keyName cmd).map id some
  | .remove deviceId keyName => (removeBinding K table deviceId keyName).map id some

def BindingMap.call (M : BindingMap) : Op → BindingMap × Option Bool
  | .init config => (ofConfig config, none)
  | .add deviceId keyName cmd =>
    if keyName ∈ keyNames then (M.update deviceId (K.code keyName) (some cmd), some true)
    else (M, some false)
  | .remove deviceId keyName =>
    if keyName ∈ keyNames ∧ (M deviceId (K.code keyName)).isSome then
      (M.update deviceId (K.code keyName) none, some true)
    else (M, some false)

variable {K} (table : Table) (deviceId keyName cmd : String)

lemma addBinding_known (h : keyName ∈ keyNames) : addBinding K table deviceId keyName cmd =
    (table.insert deviceId ((table.getD deviceId ∅).insert (K.code keyName) cmd), true) := by
  have hc := not_lt.mpr ((nameToCode_nonneg_iff K).mpr h)
  rw [addBinding, if_neg hc, nameToCode_eq, if_pos h]

lemma addBinding_unknown (h : keyName ∉ keyNames) :
    addBinding K table deviceId keyName cmd = (table, false) := by
  have hc := not_le.mp (mt (nameToCode_nonneg_iff K).mp h)
  rw [addBinding, if_pos hc]

lemma removeBinding_known (h : keyName ∈ keyNames) : removeBinding K table deviceId keyName =
    match table[deviceId]? with
    | none => (table, false)
    | some sub => (table.insert deviceId (sub.erase (K.code keyName)),
        sub.contains (K.code keyName : ℤ)) := by
  have hcode : nameToCode K keyName = K.code keyName := by rw [nameToCode_eq, if_pos h]
  have hneg : ¬ (K.code keyName : ℤ) < 0 := not_lt.mpr (Int.natCast_nonneg _)
  cases ht : table[deviceId]? with
  | none => simp only [removeBinding, hcode, hneg, if_false, ht]
  | some sub => simp only [removeBinding, hcode, hneg, if_false, ht]

lemma removeBinding_unknown (h : keyName ∉ keyNames) :
    removeBinding K table deviceId keyName = (table, false) := by
  have hc := not_le.mp (mt (nameToCode_nonneg_iff K).mp h)
  rw [removeBinding, if_pos hc]

lemma flat_addBinding (h : keyName ∈ keyNames) :
    flat (addBinding K table deviceId keyName cmd).1 =
      BindingMap.update (flat table) deviceId (K.code keyName) (some cmd) := by
  rw [addBinding_known table deviceId keyName cmd h]
  funext d c
  rw [flat_insert, getElem?_insert, ← flat_eq_getD, BindingMap.update]
  grind

lemma flat_removeBinding (h : keyName ∈ keyNames) :
    flat (removeBinding K table deviceId keyName).1 =
      BindingMap.update (flat table) deviceId (K.code keyName) none := by
  rw [removeBinding_known table deviceId keyName h]
  funext d c
  rw [BindingMap.update]
  cases hs : table[deviceId]? with
  | none =>
    have hd : flat table deviceId c = none := by rw [flat, hs, Option.bind_none]
    grind
  | some sub =>
    have hd : flat table deviceId c = sub[c]? := by rw [flat, hs, Option.bind_some]
    rw [flat_insert, getElem?_erase]
    grind

lemma removeBinding_returns (h : keyName ∈ keyNames) :
    (removeBinding K table deviceId keyName).2 =
      (flat table deviceId (K.code keyName)).isSome := by
  rw [removeBinding_known table deviceId keyName h, flat]
  cases table[deviceId]? with
  | none => rfl
  | some sub => exact Std.ExtTreeMap.isSome_getElem?_eq_contains.symm

lemma BindingMap.update_of_none {M : BindingMap} {code : ℤ} (h : M deviceId code = none) :
    M.update deviceId code none = M := by
  funext d c
  rw [update]
  grind

lemma BindingMap.update_isSome {M : BindingMap} {code code' : ℤ} {d : String} {v : Option String}
    (h : (M.update deviceId code v d code').isSome) :
    code' = code ∧ v.isSome ∨ (M d code').isSome := by
  rw [update] at h
  grind

lemma call_simulates : Simulates (call K) (BindingMap.call K) flat := by
  intro table op
  cases op with
  | init config => exact ⟨funext₂ (flat_init table config), rfl⟩
  | add deviceId keyName cmd =>
    by_cases h : keyName ∈ keyNames
    · simp only [BindingMap.call, if_pos h]
      exact ⟨flat_addBinding table deviceId keyName cmd h,
        by rw [call, addBinding_known table deviceId keyName cmd h]; rfl⟩
    · simp only [call, BindingMap.call, if_neg h, addBinding_unknown table deviceId keyName cmd h]
      exact ⟨rfl, rfl⟩
  | remove deviceId keyName =>
    by_cases h : keyName ∈ keyNames
    · have hf := flat_removeBinding (K := K) table deviceId keyName h
      have hr := removeBinding_returns (K := K) table deviceId keyName h
      cases hm : flat table deviceId (K.code keyName) with
      | none =>
        rw [BindingMap.update_of_none deviceId hm] at hf
        simp only [BindingMap.call, h, hm, Option.isSome_none, Bool.false_eq_true, and_false,
          if_false]
        exact ⟨hf, congrArg some (hr.trans (by rw [hm]; rfl))⟩
      | some cmd =>
        simp only [BindingMap.call, h, hm, Option.isSome_some, and_self, if_true]
        exact ⟨hf, congrArg some (hr.trans (by rw [hm]; rfl))⟩
    · simp only [call, BindingMap.call, h, false_and, if_false,
        removeBinding_unknown table deviceId keyName h]
      exact ⟨rfl, rfl⟩

def BindingEntry.pair (b : BindingEntry) : String × ℤ := (b.deviceId, b.keycode)

lemma allBindings_eq : allBindings K table = (entries table).map fun e =>
    ⟨e.1, codeToName K e.2.1, e.2.1, e.2.2⟩ := by
  rw [allBindings, entries, List.map_flatMap]
  simp only [List.map_map]
  rfl

lemma mem_allBindings {b : BindingEntry} : b ∈ allBindings K table ↔
    flat table b.deviceId b.keycode = some b.command ∧ b.keyName = codeToName K b.keycode := by
  rw [allBindings_eq, List.mem_map]
  constructor
  · rintro ⟨e, he, rfl⟩
    exact ⟨(mem_entries table).mp he, rfl⟩
  · rintro ⟨hf, hk⟩
    exact ⟨(b.deviceId, b.keycode, b.command), (mem_entries table).mpr hf, by rw [← hk]⟩

lemma nodup_allBindings : ((allBindings K table).map BindingEntry.pair).Nodup := by
  rw [allBindings_eq, List.map_map]
  exact nodup_entries table

theorem mapper_refines_binding_map (ops : List Op) :
    let mapper := run (call K) ∅ ops
    let M := run (BindingMap.call K) BindingMap.empty ops
    (∀ deviceId code, flat mapper.1 deviceId code = M.1 deviceId code) ∧ mapper.2 = M.2 ∧
      (∀ deviceId code,
        lookup mapper.1 deviceId code = (M.1 deviceId code).or (M.1 wildcard code)) ∧
      ((allBindings K mapper.1).map BindingEntry.pair).Nodup ∧
      ∀ b, b ∈ allBindings K mapper.1 ↔
        M.1 b.deviceId b.keycode = some b.command ∧ b.keyName = codeToName K b.keycode := by
  intro mapper M
  obtain ⟨hm, ho⟩ := (call_simulates (K := K)).run ∅ ops
  have he : flat (∅ : Table) = BindingMap.empty := funext₂ flat_empty
  rw [he] at hm ho
  refine ⟨fun deviceId code => by rw [hm], ho, fun deviceId code => ?_,
    nodup_allBindings mapper.1, fun b => ?_⟩
  · rw [lookup_eq, hm]
  · rw [mem_allBindings, hm]

end PointerForce.Daemon.Mapper
