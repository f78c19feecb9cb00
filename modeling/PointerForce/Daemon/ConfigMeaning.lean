import PointerForce.Daemon.ConfigLoader

/-! What a configuration file means for the dispatch of keys, told from the document alone. -/

namespace PointerForce.Daemon.ConfigMeaning

open Foundations Foundations.AssociationLists Foundations.FiniteMaps ConfigLoader Mapper

variable (K : KeyCodes)

def translatesTo (code : ℤ) (keyName : String) : Bool :=
  keyName ∈ keyNames && nameToCode K keyName == code

def blockCommand (dev : Json) (code : ℤ) : Option String :=
  ((bindingMembers dev).find? fun m => translatesTo K code m.1).bind fun m => m.2.string?

def own (devs : List Json) (deviceId : String) (code : ℤ) : Option String :=
  lastGiven (devs.map fun dev =>
    if keptId dev = some deviceId then blockCommand K dev code else none)

def CommandsAreStrings (dev : Json) : Prop :=
  ∀ m ∈ bindingMembers dev, m.2.string?.isSome

instance : DecidablePred CommandsAreStrings := fun dev =>
  inferInstanceAs (Decidable (∀ m ∈ bindingMembers dev, m.2.string?.isSome))

lemma translatesTo_unique {code : ℤ} {a b : String} (ha : translatesTo K code a)
    (hb : translatesTo K code b) : a = b := by
  simp only [translatesTo, Bool.and_eq_true, decide_eq_true_eq, beq_iff_eq] at ha hb
  exact nameToCode_injOn K ((nameToCode_nonneg_iff K).mpr ha.1) (ha.2.trans hb.2.symm)

lemma translatesTo_of_nonneg {keyName : String} (h : ¬ nameToCode K keyName < 0) :
    translatesTo K (nameToCode K keyName) keyName := by
  simpa [translatesTo] using (nameToCode_nonneg_iff K).mp (not_lt.mp h)

/-- The order of the names does not matter, since at most one of them translates to the code. -/
lemma getElem?_foldl_names (members : List (String × Json)) (names : List String)
    (bindings : Bindings) (code : ℤ) :
    (names.foldl (fun bindings keyName =>
        if nameToCode K keyName < 0 then bindings
        else bindings.insert (nameToCode K keyName) ((commandOf members keyName).getD ""))
      bindings)[code]? =
      ((names.find? (translatesTo K code)).map fun n => (commandOf members n).getD "").or
        bindings[code]? := by
  induction names generalizing bindings with
  | nil => rfl
  | cons name names ih =>
    rw [List.foldl_cons, ih, List.find?_cons]
    by_cases hc : nameToCode K name < 0
    · have ht : translatesTo K code name = false := by
        simp [translatesTo, ← nameToCode_nonneg_iff K, hc]
      simp only [if_pos hc, ht]
    · rw [if_neg hc, getElem?_insert]
      by_cases he : nameToCode K name = code
      · have ht : translatesTo K code name = true := he ▸ translatesTo_of_nonneg K hc
        rw [if_pos he, ht]
        cases hf : names.find? (translatesTo K code) with
        | none => simp
        | some n =>
          obtain rfl := translatesTo_unique K (List.find?_some hf) ht
          simp
      · have ht : translatesTo K code name = false := by simp [translatesTo, he]
        rw [if_neg he, ht]

def NamesFindStrings (dev : Json) : Prop :=
  ∀ name ∈ (bindingMembers dev).map Prod.fst, ∃ s, (bindingMembers dev).lookup name = some (.string s)

lemma namesFindStrings {dev : Json} (h : CommandsAreStrings dev) : NamesFindStrings dev := by
  intro name hname
  obtain ⟨⟨name, v⟩, hm, rfl⟩ := List.mem_map.mp hname
  have hl : ((bindingMembers dev).lookup name).isSome :=
    List.lookup_isSome_iff.mpr ⟨(name, v), hm, by simp⟩
  obtain ⟨w, hw⟩ := Option.isSome_iff_exists.mp hl
  have hs := h (name, w) (mem_of_lookup hw)
  cases w <;> simp_all [Json.string?]

lemma getElem?_bindingsOf {dev : Json} (h : NamesFindStrings dev) (code : ℤ) :
    (bindingsOf K (bindingMembers dev))[code]? = blockCommand K dev code := by
  rw [bindingsOf, getElem?_foldl_names, List.find?_map, blockCommand]
  change ((((bindingMembers dev).find? fun m => translatesTo K code m.1).map Prod.fst).map
    _).or _ = _
  cases hf : (bindingMembers dev).find? fun m => translatesTo K code m.1 with
  | none => simp
  | some m =>
    obtain ⟨name, v⟩ := m
    have hl := lookup_of_find? hf
    obtain ⟨s, hs⟩ := h name (List.mem_map_of_mem (List.mem_of_find?_eq_some hf))
    obtain rfl : v = .string s := Option.some.inj (hl.symm.trans hs)
    have hc : commandOf (bindingMembers dev) name = some s := by
      rw [commandOf, hs]
      rfl
    simp [hc, Json.string?]

lemma readable_of_strings {dev : Json} (ho : dev.isObject) (h : CommandsAreStrings dev) :
    Readable K dev := by
  refine ⟨by cases dev <;> simp_all [Json.isObject, Json.Indexable], ?_⟩
  intro _ keyName hk _
  obtain ⟨s, hs⟩ := namesFindStrings h keyName hk
  simp [commandOf, hs, Json.text?]

lemma lastBinding_keptDevices_named {devs : List Json} (h : ∀ dev ∈ devs, NamesFindStrings dev)
    (deviceId : String) (code : ℤ) :
    lastBinding (keptDevices K devs) deviceId code = own K devs deviceId code := by
  rw [lastBinding, keptDevices, LastGiven.map_filterMap, own]
  congr 1
  apply List.map_congr_left
  intro dev hd
  rw [← getElem?_bindingsOf K (h dev hd)]
  cases hk : keptId dev <;> simp [deviceOf, hk]

lemma lastBinding_keptDevices {devs : List Json} (h : ∀ dev ∈ devs, CommandsAreStrings dev)
    (deviceId : String) (code : ℤ) :
    lastBinding (keptDevices K devs) deviceId code = own K devs deviceId code :=
  lastBinding_keptDevices_named K (fun dev hd => namesFindStrings (h dev hd)) deviceId code

variable (C : Codec)

theorem lookup_after_load (path : String) (file : Option Bytes) {members : List (String × Json)}
    {devs : List Json} (hfile : file.bind C.reader = some (.object members))
    (hdevs : members.lookup "devices" = some (.array devs))
    (hobj : ∀ dev ∈ devs, dev.isObject) (hstr : ∀ dev ∈ devs, CommandsAreStrings dev)
    (g : Config) (table : Table) :
    ∃ g', (load C K path file).run g = .ok true g' ∧ ∀ deviceId code,
      lookup (init table g') deviceId code =
        (own K devs deviceId code).or (own K devs wildcard code) := by
  have hd : devicesOf (.object members) = some devs := by simp [devicesOf, hdevs, Json.array?]
  have hr : ∀ dev ∈ devs, Readable K dev := fun dev hm =>
    readable_of_strings K (hobj dev hm) (hstr dev hm)
  refine ⟨_, load_readable hfile hd hr g, ?_⟩
  intro deviceId code
  rw [lookup_eq, flat_init, flat_init]
  simp only [lastBinding_keptDevices K hstr]

def padBlock : Json :=
  .object [("id", .string "*"), ("bindings", .object [("KEY_A", .string "xdotool key F13")])]

def padText : Bytes :=
  utf8 "\x7b\"devices\":[\x7b\"id\":\"*\",\"bindings\":\x7b\"KEY_A\":\"xdotool key F13\"\x7d\x7d]\x7d"

theorem pad_runs_wildcard_command : ∃ g',
    (load (.ofTable [(padText, .object [("devices", .array [padBlock])])]) inputEventCodes
      "config/pointerforce.json" (some padText)).run {} = .ok true g' ∧
    lookup (init ∅ g') "macro_pad" 30 = some "xdotool key F13" := by
  obtain ⟨g', hg, hl⟩ := lookup_after_load inputEventCodes
    (.ofTable [(padText, .object [("devices", .array [padBlock])])]) "config/pointerforce.json"
    (some padText) rfl rfl (by decide) (by decide) {} ∅
  exact ⟨g', hg, (hl "macro_pad" 30).trans (by decide)⟩

end PointerForce.Daemon.ConfigMeaning
