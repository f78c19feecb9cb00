import PointerForce.Daemon.BindingMap
import PointerForce.Daemon.ConfigLoader

/-! The listed bindings as requests: what `bindings` lists, `unbind` and `bind` take back. -/

namespace PointerForce.Daemon.ListedBindings

open Foundations Foundations.FiniteMaps Foundations.Machines ConfigLoader Mapper

variable (C : Codec) (K : KeyCodes)

inductive Call where
  | load (path : String) (file : Option Bytes)
  | init
  | add (deviceId keyName cmd : String)
  | remove (deviceId keyName : String)

structure State where
  config : Config := {}
  table : Table := ∅

def onTable (s : State) (op : Op) : State × Option Bool :=
  ({ s with table := (call K s.table op).1 }, (call K s.table op).2)

def step (s : State) : Call → State × Option Bool
  | .load path file =>
    match (load C K path file).run s.config with
    | .ok ok config => ({ s with config }, some ok)
    | .error _ config => ({ s with config }, none)
  | .init => onTable K s (.init s.config)
  | .add deviceId keyName cmd => onTable K s (.add deviceId keyName cmd)
  | .remove deviceId keyName => onTable K s (.remove deviceId keyName)

def replay (table : Table) (entries : List BindingEntry) : Table :=
  entries.foldl (fun table e => (addBinding K table e.deviceId e.keyName e.command).1) table

def Named (code : ℤ) : Prop := ∃ keyName ∈ keyNames, (K.code keyName : ℤ) = code

structure AllNamed (s : State) : Prop where
  config : ∀ dc ∈ s.config.devices, ∀ code, dc.bindings[code]?.isSome → Named K code
  table : ∀ deviceId code, (flat s.table deviceId code).isSome → Named K code

section Reachable

variable {C K}

lemma bindingsOf_named (members : List (String × Json)) (code : ℤ)
    (h : (bindingsOf K members)[code]?.isSome) : Named K code := by
  rw [bindingsOf] at h
  generalize members.map Prod.fst = keys at h
  have hempty : ∀ code : ℤ, (∅ : Bindings)[code]?.isSome → Named K code := by simp
  generalize (∅ : Bindings) = bindings at h hempty
  induction keys generalizing bindings with
  | nil => exact hempty code h
  | cons keyName keys ih =>
    refine ih _ h fun code' hc => ?_
    dsimp only at hc
    split at hc
    · exact hempty code' hc
    · next hk =>
      have hm := (nameToCode_nonneg_iff K).mp (not_lt.mp hk)
      rw [getElem?_insert, nameToCode_eq, if_pos hm] at hc
      split at hc
      · next he => exact ⟨keyName, hm, he⟩
      · exact hempty code' hc

lemma keptDevices_named {devs : List Json} {dc : DeviceConfig} (h : dc ∈ keptDevices K devs)
    (code : ℤ) (hc : dc.bindings[code]?.isSome) : Named K code := by
  obtain ⟨dev, -, hd⟩ := List.mem_filterMap.mp h
  obtain ⟨id, -, rfl⟩ := Option.map_eq_some_iff.mp hd
  exact bindingsOf_named _ code hc

lemma lastBinding_isSome {devices : List DeviceConfig} {deviceId : String} {code : ℤ}
    (h : (lastBinding devices deviceId code).isSome) :
    ∃ dc ∈ devices, dc.bindings[code]?.isSome := by
  induction devices with
  | nil => simp [lastBinding] at h
  | cons dc devices ih =>
    rw [lastBinding, List.map_cons, LastGiven.cons, Option.isSome_or, Bool.or_eq_true] at h
    rcases h with h | h
    · obtain ⟨dc', hm, hc⟩ := ih h
      exact ⟨dc', List.mem_cons_of_mem dc hm, hc⟩
    · split at h
      · exact ⟨dc, List.mem_cons_self, h⟩
      · simp at h

lemma allNamed_call {s : State} (h : AllNamed K s) (op : Op)
    (hop : ∀ config, op = .init config → config = s.config) :
    AllNamed K (onTable K s op).1 := by
  refine ⟨h.config, fun deviceId code hc => ?_⟩
  have hf : flat (onTable K s op).1.table = (BindingMap.call K (flat s.table) op).1 :=
    (call_simulates s.table op).1
  rw [hf] at hc
  cases op with
  | init config =>
    obtain rfl := hop config rfl
    obtain ⟨dc, hm, hd⟩ := lastBinding_isSome hc
    exact h.config dc hm code hd
  | add d keyName cmd =>
    rw [BindingMap.call] at hc
    split at hc
    · next hk =>
      rcases BindingMap.update_isSome d hc with ⟨rfl, -⟩ | ht
      · exact ⟨keyName, hk, rfl⟩
      · exact h.table deviceId code ht
    · exact h.table deviceId code hc
  | remove d keyName =>
    rw [BindingMap.call] at hc
    split at hc
    · rcases BindingMap.update_isSome d hc with ⟨-, hv⟩ | ht
      · exact absurd hv Bool.false_ne_true
      · exact h.table deviceId code ht
    · exact h.table deviceId code hc

lemma allNamed_step (s : State) (c : Call) (h : AllNamed K s) : AllNamed K (step C K s c).1 := by
  cases c with
  | load path file =>
    obtain ⟨g, hg, hr⟩ := load_ends (C := C) (K := K) path file s.config
    have hn : AllNamed K { s with config := g } := by
      refine ⟨fun dc hm code hc => ?_, h.table⟩
      rcases hg with rfl | ⟨root, kept, -, rfl⟩
      · exact h.config dc hm code hc
      · exact keptDevices_named hm code hc
    rcases hr with ⟨ok, hr⟩ | ⟨e, hr⟩
    · simpa only [step, hr] using hn
    · simpa only [step, hr] using hn
  | init => exact allNamed_call h _ fun config he => (Op.init.inj he).symm
  | add deviceId keyName cmd => exact allNamed_call h _ fun config he => by cases he
  | remove deviceId keyName => exact allNamed_call h _ fun config he => by cases he

lemma allNamed_empty : AllNamed K {} :=
  ⟨by simp, by simp⟩

lemma reachable_named (calls : List Call) (deviceId : String) (code : ℤ)
    (h : (flat (run (step C K) {} calls).1.table deviceId code).isSome) : Named K code :=
  (run_invariant allNamed_step allNamed_empty calls).table deviceId code h

end Reachable

section FedBack

variable {K} {table : Table} (hn : ∀ deviceId code, (flat table deviceId code).isSome → Named K code)
include hn

lemma listed_key {e : BindingEntry} (he : e ∈ allBindings K table) :
    e.keyName ∈ keyNames ∧ (K.code e.keyName : ℤ) = e.keycode := by
  obtain ⟨hf, hk⟩ := (mem_allBindings table).mp he
  obtain ⟨keyName, hm, hc⟩ := hn e.deviceId e.keycode (by rw [hf]; rfl)
  rw [hk, ← hc, codeToName_code K hm]
  exact ⟨hm, rfl⟩

lemma unbind_listed {e : BindingEntry} (he : e ∈ allBindings K table) :
    (removeBinding K table e.deviceId e.keyName).2 = true ∧
      (allBindings K (removeBinding K table e.deviceId e.keyName).1).Perm
        ((allBindings K table).erase e) := by
  obtain ⟨hm, hc⟩ := listed_key hn he
  obtain ⟨hf, hk⟩ := (mem_allBindings table).mp he
  have hd := (nodup_allBindings (K := K) table).of_map
  have hd' := (nodup_allBindings (K := K) (removeBinding K table e.deviceId e.keyName).1).of_map
  constructor
  · rw [removeBinding_returns table e.deviceId e.keyName hm, hc, hf, Option.isSome_some]
  · rw [List.perm_ext_iff_of_nodup hd' (hd.erase e)]
    intro b
    rw [hd.mem_erase_iff, mem_allBindings, mem_allBindings,
      flat_removeBinding table e.deviceId e.keyName hm, hc, BindingMap.update]
    split
    · next hb =>
      -- the only entry at the pair is `e` itself
      obtain ⟨bd, bk, bc, bcmd⟩ := b
      obtain ⟨rfl, rfl⟩ := hb
      simp only [reduceCtorEq, false_and, false_iff, not_and]
      intro hne hb hbk
      obtain rfl := Option.some.inj (hb.symm.trans hf)
      exact hne (by rw [hbk, ← hk])
    · next hb =>
      have hne : b ≠ e := fun h => hb (by rw [h]; exact ⟨rfl, rfl⟩)
      simp [hne]

end FedBack

section Replay

variable {K} {entries : List BindingEntry}

lemma replay_absent (hk : ∀ e ∈ entries, e.keyName ∈ keyNames ∧ (K.code e.keyName : ℤ) = e.keycode)
    {deviceId : String} {code : ℤ} (h : (deviceId, code) ∉ entries.map BindingEntry.pair)
    (table : Table) : flat (replay K table entries) deviceId code = flat table deviceId code := by
  induction entries generalizing table with
  | nil => rfl
  | cons e entries ih =>
    obtain ⟨hm, hc⟩ := hk e List.mem_cons_self
    simp only [List.map_cons, List.mem_cons, not_or, BindingEntry.pair, Prod.mk.injEq] at h
    rw [replay, List.foldl_cons, ← replay, ih (fun b hb => hk b (List.mem_cons_of_mem e hb)) h.2,
      flat_addBinding _ _ _ _ hm, hc, BindingMap.update, if_neg h.1]

lemma replay_present
    (hk : ∀ e ∈ entries, e.keyName ∈ keyNames ∧ (K.code e.keyName : ℤ) = e.keycode)
    (hd : (entries.map BindingEntry.pair).Nodup) {b : BindingEntry} (h : b ∈ entries)
    (table : Table) :
    flat (replay K table entries) b.deviceId b.keycode = some b.command := by
  induction entries generalizing table with
  | nil => simp at h
  | cons e entries ih =>
    obtain ⟨hm, hc⟩ := hk e List.mem_cons_self
    have ht : ∀ b ∈ entries, b.keyName ∈ keyNames ∧ (K.code b.keyName : ℤ) = b.keycode :=
      fun b hb => hk b (List.mem_cons_of_mem e hb)
    rw [List.map_cons, List.nodup_cons] at hd
    rw [replay, List.foldl_cons, ← replay]
    rcases List.mem_cons.mp h with rfl | h
    · rw [replay_absent ht hd.1, flat_addBinding _ _ _ _ hm, hc, BindingMap.update]
      simp
    · exact ih ht hd.2 h _

end Replay

theorem listed_bindings_fed_back (calls : List Call) :
    let table := (run (step C K) {} calls).1.table
    (∀ e ∈ allBindings K table,
      nameToCode K e.keyName = e.keycode ∧
      (removeBinding K table e.deviceId e.keyName).2 = true ∧
      (allBindings K (removeBinding K table e.deviceId e.keyName).1).Perm
        ((allBindings K table).erase e)) ∧
    ∀ entries, entries.Perm (allBindings K table) → ∀ deviceId code,
      lookup (replay K ∅ entries) deviceId code = lookup table deviceId code := by
  intro table
  have hn := reachable_named (C := C) (K := K) calls
  refine ⟨fun e he => ⟨?_, unbind_listed hn he⟩, fun entries hp deviceId code => ?_⟩
  · obtain ⟨hm, hc⟩ := listed_key hn he
    rw [nameToCode_eq, if_pos hm, hc]
  have hk : ∀ e ∈ entries, e.keyName ∈ keyNames ∧ (K.code e.keyName : ℤ) = e.keycode :=
    fun e he => listed_key hn (hp.mem_iff.mp he)
  have hd := (hp.map BindingEntry.pair).nodup_iff.mpr (nodup_allBindings table)
  have hf : flat (replay K ∅ entries) = flat table := by
    funext deviceId code
    cases h : flat table deviceId code with
    | some cmd =>
      have hb : ⟨deviceId, codeToName K code, code, cmd⟩ ∈ entries :=
        hp.mem_iff.mpr ((mem_allBindings table).mpr ⟨h, rfl⟩)
      exact replay_present hk hd hb ∅
    | none =>
      have hb : (deviceId, code) ∉ entries.map BindingEntry.pair := by
        rw [List.mem_map]
        rintro ⟨b, hb, he⟩
        obtain ⟨rfl, rfl⟩ := Prod.mk.inj he
        have hs := ((mem_allBindings table).mp (hp.mem_iff.mp hb)).1
        rw [h] at hs
        cases hs
      rw [replay_absent hk hb, flat_empty]
  rw [lookup_eq, lookup_eq, hf]

end PointerForce.Daemon.ListedBindings
