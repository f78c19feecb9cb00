import PointerForce.Daemon.Mapper
import PointerForce.Foundations.Faults

/-! The loader of the configuration file. It writes the global configuration in place, so what it
has written when it fails or raises stays written. -/

namespace PointerForce.Daemon.ConfigLoader

open Foundations Foundations.Faults Mapper

abbrev Loader := EStateM LogicError Config

def loadOption {α : Type} (project : Json → Option α) (root : Json) (name : String)
    (assign : α → Config → Config) : Loader Unit := do
  match ← Json.typedMember project root name with
  | some a => modify (assign a)
  | none => pure ()

def loadOptions (root : Json) : Loader Unit := do
  loadOption Json.bool? root "daemon" fun b g => { g with daemonMode := b }
  loadOption Json.bool? root "debug" fun b g => { g with debug := b }
  loadOption Json.string? root "control_socket" fun s g => { g with controlSocket := s }

def readMatch (dev : Json) : Except LogicError DeviceMatch := do
  match ← dev.objectMember "match" with
  | some members =>
    let m := Json.object members
    return { nameContains := (← m.stringMember "name").getD ""
             vendorProduct := (← m.stringMember "vendor_product").getD ""
             path := (← m.stringMember "path").getD "" }
  | none => return { path := (← dev.stringMember "path").getD "" }

variable (C : Codec) (K : KeyCodes)

def readBinding (members : List (String × Json)) (bindings : Bindings) (keyName : String) :
    Except LogicError Bindings := do
  let code := nameToCode K keyName
  if code < 0 then return bindings
  return bindings.insert code (← (← (Json.object members).get keyName).asString)

def readBindings (dev : Json) : Except LogicError Bindings := do
  match ← dev.objectMember "bindings" with
  | some members => (members.map Prod.fst).foldlM (readBinding K members) ∅
  | none => return ∅

def readDevice (dev : Json) : Except LogicError (Option DeviceConfig) := do
  let some id ← dev.stringMember "id" | return none
  let criteria ← readMatch dev
  if criteria.isEmpty && id != wildcard then return none
  let grab := (← dev.boolMember "grab").getD false
  return some { id, criteria, grab, bindings := ← readBindings K dev }

def loadDevice (dev : Json) : Loader Unit := do
  if let some dc ← readDevice K dev then modify fun g => { g with devices := g.devices ++ [dc] }

/-- `file` is the content of the file at `path`, if it can be opened. -/
def load (path : String) (file : Option Bytes) : Loader Bool := do
  let some text := file | return false
  let some root := C.reader text | return false
  -- from here on the old devices are lost, whatever follows
  modify fun g => { g with devices := [], configPath := path }
  loadOptions root
  let some devices ← root.arrayMember "devices" | return false
  forM devices (loadDevice K)
  return true

structure FileOptions where
  daemon : Option Bool
  debug : Option Bool
  controlSocket : Option String

def optionsOf (root : Json) : FileOptions where
  daemon := (root.field "daemon").bind Json.bool?
  debug := (root.field "debug").bind Json.bool?
  controlSocket := (root.field "control_socket").bind Json.string?

def FileOptions.apply (o : FileOptions) (g : Config) : Config :=
  { g with
    daemonMode := o.daemon.getD g.daemonMode
    debug := o.debug.getD g.debug
    controlSocket := o.controlSocket.getD g.controlSocket }

def matchOf (dev : Json) : DeviceMatch :=
  match (dev.field "match").bind Json.object? with
  | some members =>
    let m := Json.object members
    { nameContains := ((m.field "name").bind Json.string?).getD ""
      vendorProduct := ((m.field "vendor_product").bind Json.string?).getD ""
      path := ((m.field "path").bind Json.string?).getD "" }
  | none => { path := ((dev.field "path").bind Json.string?).getD "" }

def keptId (dev : Json) : Option String :=
  ((dev.field "id").bind Json.string?).filter fun id => !(matchOf dev).isEmpty || id == wildcard

def bindingMembers (dev : Json) : List (String × Json) :=
  ((dev.field "bindings").bind Json.object?).getD []

def commandOf (members : List (String × Json)) (keyName : String) : Option String :=
  ((members.lookup keyName).getD .null).text?

def Readable (dev : Json) : Prop :=
  dev.Indexable ∧ ((keptId dev).isSome → ∀ keyName ∈ (bindingMembers dev).map Prod.fst,
    0 ≤ nameToCode K keyName → (commandOf (bindingMembers dev) keyName).isSome)

instance : DecidablePred (Readable K) := fun dev => by unfold Readable; infer_instance

def bindingsOf (members : List (String × Json)) : Bindings :=
  (members.map Prod.fst).foldl (fun bindings keyName =>
    if nameToCode K keyName < 0 then bindings
    else bindings.insert (nameToCode K keyName) ((commandOf members keyName).getD "")) ∅

def deviceOf (dev : Json) : Option DeviceConfig :=
  (keptId dev).map fun id =>
    { id, criteria := matchOf dev, grab := ((dev.field "grab").bind Json.bool?).getD false,
      bindings := bindingsOf K (bindingMembers dev) }

section Reading

lemma loadOption_run {α : Type} (project : Json → Option α) {root : Json} (h : root.Indexable)
    (name : String) (assign : α → Config → Config) (g : Config) :
    (loadOption project root name assign).run g =
      .ok () (((root.field name).bind project).elim g fun a => assign a g) := by
  simp only [loadOption, EStateM.run_bind, run_lift_ok (Json.typedMember_indexable _ h _)]
  cases (root.field name).bind project <;> rfl

lemma loadOptions_run {root : Json} (h : root.Indexable) (g : Config) :
    (loadOptions root).run g = .ok () ((optionsOf root).apply g) := by
  simp only [loadOptions, EStateM.run_bind, loadOption_run _ h, FileOptions.apply, optionsOf]
  cases (root.field "daemon").bind Json.bool? <;> cases (root.field "debug").bind Json.bool? <;>
    cases (root.field "control_socket").bind Json.string? <;> rfl

lemma loadOptions_raises {root : Json} (h : ¬ root.Indexable) (g : Config) :
    (loadOptions root).run g = .error .notAnObject g := by
  simp only [loadOptions, loadOption, EStateM.run_bind,
    run_lift_error (Json.typedMember_not_indexable _ h _)]

lemma readMatch_indexable {dev : Json} (h : dev.Indexable) : readMatch dev = .ok (matchOf dev) := by
  simp only [readMatch, matchOf, Json.typedMember_indexable _ h]
  cases (dev.field "match").bind Json.object? <;> rfl

lemma readBinding_ok {members : List (String × Json)} {keyName : String}
    (h : 0 ≤ nameToCode K keyName → (commandOf members keyName).isSome) (bindings : Bindings) :
    readBinding K members bindings keyName =
      .ok (if nameToCode K keyName < 0 then bindings
        else bindings.insert (nameToCode K keyName) ((commandOf members keyName).getD "")) := by
  simp only [readBinding, Json.get_indexable (Json.indexable_object members), Json.field_object]
  split
  · rfl
  · next hc =>
    obtain ⟨cmd, hcmd⟩ := Option.isSome_iff_exists.mp (h (not_lt.mp hc))
    simp only [ok_bind, hcmd, Json.asString_some hcmd]
    rfl

lemma readBinding_raises {members : List (String × Json)} {keyName : String}
    (hk : 0 ≤ nameToCode K keyName) (h : commandOf members keyName = none) (bindings : Bindings) :
    readBinding K members bindings keyName = .error .notConvertible := by
  simp only [readBinding, Json.get_indexable (Json.indexable_object members), Json.field_object,
    if_neg (not_lt.mpr hk), ok_bind, Json.asString_none h, error_bind]

lemma readBindings_indexable {dev : Json} (h : dev.Indexable) : readBindings K dev =
    ((bindingMembers dev).map Prod.fst).foldlM (readBinding K (bindingMembers dev)) ∅ := by
  simp only [readBindings, bindingMembers, Json.typedMember_indexable _ h, ok_bind]
  cases (dev.field "bindings").bind Json.object? <;> rfl

lemma keptId_eq_some {dev : Json} {id : String} : keptId dev = some id ↔
    (dev.field "id").bind Json.string? = some id ∧ ((matchOf dev).isEmpty = false ∨ id = wildcard) := by
  simp [keptId, Option.filter_eq_some_iff]

lemma readDevice_skipped {dev : Json} (h : dev.Indexable) (hk : keptId dev = none) :
    readDevice K dev = .ok none := by
  simp only [readDevice, Json.typedMember_indexable _ h, readMatch_indexable h, ok_bind]
  cases hi : (dev.field "id").bind Json.string? with
  | none => rfl
  | some id =>
    have hc : ((matchOf dev).isEmpty && id != wildcard) = true := by
      simpa [keptId, hi, Option.filter_some] using hk
    simp only [if_pos hc]
    rfl

lemma readDevice_kept {dev : Json} {id : String} (h : dev.Indexable) (hk : keptId dev = some id) :
    readDevice K dev = do
      let bindings ← readBindings K dev
      return some { id, criteria := matchOf dev,
                    grab := ((dev.field "grab").bind Json.bool?).getD false, bindings } := by
  obtain ⟨hi, hc⟩ := keptId_eq_some.mp hk
  have hc' : ¬ ((matchOf dev).isEmpty && id != wildcard) = true := by
    rcases hc with hc | rfl <;> simp [*]
  simp only [readDevice, Json.typedMember_indexable _ h, readMatch_indexable h, ok_bind, hi,
    if_neg hc']

lemma readDevice_readable {dev : Json} (h : Readable K dev) :
    readDevice K dev = .ok (deviceOf K dev) := by
  obtain ⟨hi, hb⟩ := h
  cases hk : keptId dev with
  | none => rw [readDevice_skipped K hi hk, deviceOf, hk, Option.map_none]
  | some id =>
    rw [hk] at hb
    have hr := foldlM_ok (fun keyName hm => readBinding_ok K (hb rfl keyName hm)) ∅
    rw [readDevice_kept K hi hk, readBindings_indexable K hi, hr, ok_bind, deviceOf, hk]
    rfl

lemma readDevice_raises {dev : Json} (h : ¬ Readable K dev) :
    ∃ e, readDevice K dev = .error e := by
  by_cases hi : dev.Indexable
  · simp only [Readable, hi, true_and, not_forall] at h
    obtain ⟨hk, keyName, hm, hc, hn⟩ := h
    obtain ⟨id, hid⟩ := Option.isSome_iff_exists.mp hk
    obtain ⟨e, he⟩ := foldlM_raises (b := (∅ : Bindings)) ⟨keyName, hm, fun bindings =>
      ⟨_, readBinding_raises K hc (Option.not_isSome_iff_eq_none.mp hn) bindings⟩⟩
    refine ⟨e, ?_⟩
    rw [readDevice_kept K hi hid, readBindings_indexable K hi, he, error_bind]
  · exact ⟨.notAnObject, by
      simp only [readDevice, Json.typedMember_not_indexable _ hi, error_bind]⟩

end Reading

section Loading

def keptDevices (devs : List Json) : List DeviceConfig := devs.filterMap (deviceOf K)

lemma keptDevices_cons (dev : Json) (devs : List Json) :
    keptDevices K (dev :: devs) = (deviceOf K dev).toList ++ keptDevices K devs := by
  cases h : deviceOf K dev <;> simp [keptDevices, h]

lemma loadDevice_readable {dev : Json} (h : Readable K dev) (g : Config) :
    (loadDevice K dev).run g = .ok () { g with devices := g.devices ++ (deviceOf K dev).toList } := by
  simp only [loadDevice, EStateM.run_bind, run_lift_ok (readDevice_readable K h)]
  cases deviceOf K dev <;> simp

lemma loadDevice_raises {dev : Json} (h : ¬ Readable K dev) (g : Config) :
    ∃ e, (loadDevice K dev).run g = .error e g := by
  obtain ⟨e, he⟩ := readDevice_raises K h
  exact ⟨e, by simp only [loadDevice, EStateM.run_bind, run_lift_error he]⟩

lemma loadDevices_readable {devs : List Json} (h : ∀ dev ∈ devs, Readable K dev) (g : Config) :
    (forM devs (loadDevice K)).run g =
      .ok () { g with devices := g.devices ++ keptDevices K devs } := by
  induction devs generalizing g with
  | nil => simp [keptDevices]
  | cons dev devs ih =>
    have hd := loadDevice_readable K (h dev List.mem_cons_self) g
    have ht := ih (fun d hd => h d (List.mem_cons_of_mem dev hd))
    rw [List.forM_cons, EStateM.run_bind, hd]
    simp only [ht, keptDevices_cons, List.append_assoc]

lemma loadDevices_raises {devs : List Json} (h : ¬ ∀ dev ∈ devs, Readable K dev) (g : Config) :
    ∃ e, (forM devs (loadDevice K)).run g = .error e
      { g with devices := g.devices ++ keptDevices K (devs.takeWhile (Readable K ·)) } := by
  induction devs generalizing g with
  | nil => simp at h
  | cons dev devs ih =>
    rw [List.forM_cons, EStateM.run_bind]
    by_cases hd : Readable K dev
    · obtain ⟨e, he⟩ := ih (by simpa [hd] using h)
        { g with devices := g.devices ++ (deviceOf K dev).toList }
      refine ⟨e, ?_⟩
      rw [loadDevice_readable K hd, List.takeWhile_cons_of_pos (by simpa using hd), keptDevices_cons,
        ← List.append_assoc]
      exact he
    · obtain ⟨e, he⟩ := loadDevice_raises K hd g
      refine ⟨e, ?_⟩
      rw [he, List.takeWhile_cons_of_neg (by simpa using hd)]
      simp [keptDevices]

def cleared (path : String) (root : Json) (g : Config) : Config :=
  (optionsOf root).apply { g with devices := [], configPath := path }

def devicesOf (root : Json) : Option (List Json) := (root.field "devices").bind Json.array?

def Loadable (root : Json) : Prop := ∃ devs, devicesOf root = some devs ∧ ∀ dev ∈ devs, Readable K dev

variable {C K} {path : String} {file : Option Bytes} {root : Json} {devs : List Json}

lemma load_unparsed (h : file.bind C.reader = none) (g : Config) :
    (load C K path file).run g = .ok false g := by
  cases file with
  | none => rfl
  | some text =>
    have ht : C.reader text = none := h
    simp only [load, ht]
    rfl

lemma load_parsed (h : file.bind C.reader = some root) : load C K path file = do
    modify fun g => { g with devices := [], configPath := path }
    loadOptions root
    let some devices ← root.arrayMember "devices" | return false
    forM devices (loadDevice K)
    return true := by
  obtain ⟨text, rfl, ht⟩ := Option.bind_eq_some_iff.mp h
  simp only [load, ht]

lemma load_not_indexable (h : file.bind C.reader = some root) (hi : ¬ root.Indexable) (g : Config) :
    (load C K path file).run g = .error .notAnObject { g with devices := [], configPath := path } := by
  simp only [load_parsed h, EStateM.run_bind, EStateM.run_modify, loadOptions_raises hi]

lemma load_without_devices (h : file.bind C.reader = some root) (hi : root.Indexable)
    (hd : devicesOf root = none) (g : Config) :
    (load C K path file).run g = .ok false (cleared path root g) := by
  have hm : root.arrayMember "devices" = .ok none := by
    rw [Json.arrayMember, Json.typedMember_indexable _ hi, ← devicesOf, hd]
  simp only [load_parsed h, EStateM.run_bind, EStateM.run_modify, loadOptions_run hi,
    run_lift_ok hm, EStateM.run_pure, cleared]

lemma load_with_devices (h : file.bind C.reader = some root) (hd : devicesOf root = some devs)
    (g : Config) : (load C K path file).run g =
      ((do forM devs (loadDevice K); return true : Loader Bool)).run (cleared path root g) := by
  have hi : root.Indexable := by
    cases root <;> simp_all [devicesOf, Json.field, Json.object?, Json.Indexable]
  have hm : root.arrayMember "devices" = .ok (some devs) := by
    rw [Json.arrayMember, Json.typedMember_indexable _ hi, ← devicesOf, hd]
  simp only [load_parsed h, EStateM.run_bind, EStateM.run_modify, loadOptions_run hi,
    run_lift_ok hm, cleared]

lemma load_readable (h : file.bind C.reader = some root) (hd : devicesOf root = some devs)
    (hr : ∀ dev ∈ devs, Readable K dev) (g : Config) : (load C K path file).run g =
      .ok true { cleared path root g with devices := keptDevices K devs } := by
  rw [load_with_devices h hd, EStateM.run_bind, loadDevices_readable K hr]
  rfl

lemma load_raises (h : file.bind C.reader = some root) (hd : devicesOf root = some devs)
    (hr : ¬ ∀ dev ∈ devs, Readable K dev) (g : Config) : ∃ e, (load C K path file).run g =
      .error e { cleared path root g with
        devices := keptDevices K (devs.takeWhile (Readable K ·)) } := by
  obtain ⟨e, he⟩ := loadDevices_raises K hr (cleared path root g)
  refine ⟨e, ?_⟩
  rw [load_with_devices h hd, EStateM.run_bind, he]
  rfl

def installed (K : KeyCodes) (path : String) (root : Json) (g : Config) : Config :=
  { cleared path root g with devices := keptDevices K ((devicesOf root).getD []) }

lemma load_loadable (h : file.bind C.reader = some root) (hl : Loadable K root) (g : Config) :
    (load C K path file).run g = .ok true (installed K path root g) := by
  obtain ⟨devs, hd, hr⟩ := hl
  rw [load_readable h hd hr, installed, hd]
  rfl

def leftBehind (K : KeyCodes) (path : String) (root : Json) (g : Config) : Config :=
  { cleared path root g with
    devices := keptDevices K (((devicesOf root).getD []).takeWhile (Readable K ·)) }

lemma load_not_loadable (h : file.bind C.reader = some root) (hl : ¬ Loadable K root) (g : Config) :
    (load C K path file).run g = .ok false (leftBehind K path root g) ∨
      ∃ e, (load C K path file).run g = .error e (leftBehind K path root g) := by
  by_cases hi : root.Indexable
  · cases hd : devicesOf root with
    | none =>
      left
      rw [load_without_devices h hi hd, leftBehind, hd]
      rfl
    | some devs =>
      right
      obtain ⟨e, he⟩ := load_raises h hd (fun hr => hl ⟨devs, hd, hr⟩) g
      exact ⟨e, by rw [he, leftBehind, hd]; rfl⟩
  · right
    refine ⟨.notAnObject, ?_⟩
    rw [load_not_indexable h hi]
    cases root <;> first | exact absurd trivial hi | rfl

lemma load_ends (path : String) (file : Option Bytes) (g : Config) :
    ∃ g' : Config, (g' = g ∨ ∃ root kept, file.bind C.reader = some root ∧
        g' = { cleared path root g with devices := keptDevices K kept }) ∧
      ((∃ ok, (load C K path file).run g = .ok ok g') ∨
        ∃ e, (load C K path file).run g = .error e g') := by
  cases h : file.bind C.reader with
  | none => exact ⟨g, .inl rfl, .inl ⟨false, load_unparsed h g⟩⟩
  | some root =>
    by_cases hl : Loadable K root
    · exact ⟨_, .inr ⟨root, _, rfl, rfl⟩, .inl ⟨true, load_loadable h hl g⟩⟩
    · refine ⟨leftBehind K path root g, .inr ⟨root, _, rfl, rfl⟩, ?_⟩
      exact (load_not_loadable h hl g).imp_left fun he => ⟨false, he⟩

end Loading

end PointerForce.Daemon.ConfigLoader
