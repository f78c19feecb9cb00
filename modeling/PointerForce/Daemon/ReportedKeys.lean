import PointerForce.Daemon.BindingMap
import PointerForce.Daemon.Observers
import Mathlib.Data.Bool.AllAny

/-! The key names that the event stream reports, and what happens when one of them is bound. A code
outside the table of names is reported under a made-up name. -/

namespace PointerForce.Daemon.ReportedKeys

open Foundations Foundations.AssociationLists Foundations.FiniteMaps Mapper Observers

variable (K : KeyCodes)

def Listed (code : ℤ) : Prop := ∃ name ∈ keyNames, code = K.code name

def reportedKey (ev : InputEvent) (cmd : String) : String :=
  (((eventLine K ev cmd).field "key").bind Json.string?).getD ""

section Names

lemma keyNames_chars : ∀ name ∈ keyNames, name ≠ "" ∧ ∀ c ∈ name.toList, '0' ≤ c ∧ c ≤ '_' := by
  have h : ∀ name ∈ keyNames, name ≠ "" ∧ name.toList.all fun c => '0' ≤ c ∧ c ≤ '_' := by
    decide +kernel
  exact fun name hn => ⟨(h name hn).1, List.all_iff_forall_prop.mp (h name hn).2⟩

lemma unknown_not_listed (code : ℤ) : s!"KEY_UNKNOWN({code})" ∉ keyNames := by
  intro h
  have hparen : '(' ∈ s!"KEY_UNKNOWN({code})".toList := by
    rw [String.toList_append, String.toList_append, List.append_assoc]
    exact List.mem_append_left _ (by decide)
  exact absurd ((keyNames_chars _ h).2 '(' hparen) (by decide)

lemma codeToName_unlisted {code : ℤ} (h : ¬ Listed K code) :
    codeToName K code = s!"KEY_UNKNOWN({code})" := by
  have hnone : (codeTable K).lookup code = none := by
    rw [List.lookup_eq_none_iff]
    intro p hp
    simp only [codeTable, nameTable, List.map_map, List.mem_map] at hp
    obtain ⟨name, hname, rfl⟩ := hp
    simpa using fun he => h ⟨name, hname, he⟩
  rw [codeToName, hnone, Option.getD_none]

lemma codeToName_mem_iff {code : ℤ} : codeToName K code ∈ keyNames ↔ Listed K code := by
  constructor
  · intro h
    by_contra hno
    rw [codeToName_unlisted K hno] at h
    exact unknown_not_listed code h
  · rintro ⟨name, hname, rfl⟩
    rwa [codeToName_code K hname]

lemma nameToCode_codeToName_iff {code : ℤ} :
    nameToCode K (codeToName K code) = code ↔ Listed K code ∨ code = -1 := by
  constructor
  · intro h
    by_cases hl : Listed K code
    · exact .inl hl
    · rw [nameToCode_eq, if_neg (mt (codeToName_mem_iff K).mp hl)] at h
      exact .inr h.symm
  · rintro (⟨name, hname, rfl⟩ | rfl)
    · rw [codeToName_code K hname, nameToCode_eq, if_pos hname]
    · have hl : ¬ Listed K (-1) := fun ⟨name, _, h⟩ => by omega
      rw [nameToCode_eq, if_neg (mt (codeToName_mem_iff K).mp hl)]

lemma reportedKey_eq (ev : InputEvent) (cmd : String) :
    reportedKey K ev cmd = codeToName K ev.code := by
  simp [reportedKey, eventLine, Json.ofMembers, Json.field_set, Json.string?]

end Names

theorem reported_key_binds_iff (ev : InputEvent) (seen : String) (table : Table)
    (deviceId cmd : String) :
    ((addBinding K table deviceId (reportedKey K ev seen) cmd).2 = true ∧
        lookup (addBinding K table deviceId (reportedKey K ev seen) cmd).1 deviceId ev.code =
          some cmd ↔ Listed K ev.code) ∧
      (nameToCode K (codeToName K ev.code) = ev.code ↔ Listed K ev.code ∨ ev.code = -1) := by
  refine ⟨?_, nameToCode_codeToName_iff K⟩
  rw [reportedKey_eq]
  constructor
  · rintro ⟨hok, -⟩
    by_contra hl
    rw [addBinding_unknown table deviceId _ cmd (mt (codeToName_mem_iff K).mp hl)] at hok
    cases hok
  · intro hl
    have hmem := (codeToName_mem_iff K).mpr hl
    obtain ⟨name, hname, hcode⟩ := hl
    refine ⟨by rw [addBinding_known table deviceId _ cmd hmem], ?_⟩
    rw [lookup_eq, flat_addBinding table deviceId _ cmd hmem, hcode, codeToName_code K hname,
      BindingMap.update]
    simp

def taskPress : InputEvent where
  deviceId := "gaming_mouse"
  devicePath := "/dev/input/event3"
  code := 279
  value := keyPress
  timestamp := 0

theorem task_button_not_bindable :
    (addBinding inputEventCodes ∅ "gaming_mouse" (reportedKey inputEventCodes taskPress "")
      "firefox").2 = false ∧
    nameToCode inputEventCodes (codeToName inputEventCodes 279) ≠ 279 := by
  have hl : ¬ Listed inputEventCodes 279 := by
    rintro ⟨name, hname, h⟩
    have hcodes : keyNames.map inputEventCodes.code = headerCodes :=
      map_lookup_zip 0 keyNames_nodup (by decide +kernel)
    have hmem : 279 ∈ headerCodes := by
      rw [← hcodes, Nat.cast_inj.mp h]
      exact List.mem_map_of_mem hname
    exact absurd hmem (by decide)
  constructor
  · have hname : reportedKey inputEventCodes taskPress "" ∉ keyNames := by
      rw [reportedKey_eq]
      exact mt (codeToName_mem_iff inputEventCodes).mp hl
    rw [addBinding_unknown ∅ _ _ _ hname]
  · rw [ne_eq, nameToCode_codeToName_iff]
    exact fun h => h.elim hl (by decide)

end PointerForce.Daemon.ReportedKeys
