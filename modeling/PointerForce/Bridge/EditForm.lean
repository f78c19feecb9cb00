import PointerForce.Bridge.EditEffects
import PointerForce.Bridge.EventLines
import PointerForce.Daemon.ConfigLoader
import PointerForce.Daemon.DeviceManager

/-! The form of the web page that edits a device. It shows one criterion of the block, and a save
replaces the block's whole match by what the form shows, if the bridge takes the whole document. -/

namespace PointerForce.Bridge.EditForm

open Foundations Foundations.Faults Foundations.Delimiters Daemon Daemon.ConfigLoader
  Daemon.DeviceManager ConfigStore DeviceEndpoints ConcurrentEdits
  EditEffects EventLines

inductive MatchType where
  | path
  | vendorProduct
  | name
  deriving DecidableEq, Repr

def MatchType.key : MatchType → String
  | .path => "path"
  | .vendorProduct => "vendor_product"
  | .name => "name"

def MatchType.earlier : MatchType → List MatchType
  | .path => []
  | .vendorProduct => [.path]
  | .name => [.path, .vendorProduct]

-- a number is false if it is zero, whichever sign it has
def truthy : Json → Bool
  | .null => false
  | .bool b => b
  | .int i => i != 0
  | .real t => t != "0.0" && t != "-0.0"
  | .string s => s != ""
  | .array _ | .object _ => true

/-- `(device.match || {})[type]` -/
def criterion (device : Json) (type : MatchType) : Json :=
  ((((device.field "match").bind Json.object?).getD []).lookup type.key).getD .null

def matchSummary (device : Json) : Option (MatchType × Json) :=
  ([.path, .vendorProduct, .name].find? fun type => truthy (criterion device type)).map
    fun type => (type, criterion device type)

-- the text of a value that is not a string
variable (other : Json → String)

def fieldValue (value : Json) : List Char := fieldText (value.string?.getD (other value)).toList

def submitted (device : Json) : Option (MatchType × String) := do
  let (type, value) ← matchSummary device
  let value := String.ofList (trim isSpace (fieldValue other value))
  if value = "" then none else some (type, value)

def formBody (type : MatchType) (value : String) (grab : Bool) : Json :=
  .object [("grab", .bool grab), ("match", .object [(type.key, .string value)])]

-- the id in the path of the request
def formId (device : Json) : String :=
  let id := (device.field "id").getD .null
  id.string?.getD (other id)

def save (C : Codec) (device : Json) (grab : Bool) (fault : Option String) (file : Option Bytes) :
    Option Bytes :=
  match submitted other device with
  -- nothing is sent
  | none => file
  | some (type, value) =>
    (handle C (.put (formId other device) (some (formBody type value grab))) fault file).2

def SameNodes (m m' : DeviceMatch) : Prop :=
  ∀ info path, sysfsMatches info path m = sysfsMatches info path m'

def only (value : String) : MatchType → DeviceMatch
  | .path => { path := value }
  | .vendorProduct => { vendorProduct := value }
  | .name => { nameContains := value }

def effective (m : DeviceMatch) : MatchType → String
  | .path => m.path
  | .vendorProduct => m.vendorProduct
  | .name => m.nameContains

def MatchesAsBefore (C : Codec) (file : Option Bytes) (before : List Json) (device : Json) : Prop :=
  ∃ cfg device', ConfigStore.read C configPath file = .ok cfg ∧
    (elements cfg)[before.length]? = some device' ∧ SameNodes (matchOf device') (matchOf device)

def Accepted (device : Json) : Prop :=
  (deviceId device).isSome ∧ validateBindings device = .ok ()

structure Writable (cfg : Json) (before : List Json) (device : Json) (after : List Json) : Prop where
  daemon : ∀ m, cfg.field "daemon" = some m → isBool m
  debug : ∀ m, cfg.field "debug" = some m → isBool m
  controlSocket : ∀ m, cfg.field "control_socket" = some m → isString m
  others : ∀ d ∈ before ++ after, ∃ id, ValidDevice d id
  block : Accepted device
  distinct : ((before ++ device :: after).map deviceId).Nodup

/-- No earlier criterion hides this one in the form. -/
def Shown (device : Json) (type : MatchType) : Prop :=
  truthy (criterion device type) ∧ ∀ earlier ∈ type.earlier, ¬ truthy (criterion device earlier)

def Blank (value : Json) : Prop := ∀ c ∈ fieldValue other value, isSpace c

def Plain (value : Json) : Prop :=
  ∃ text, value = .string text ∧ Trimmed text ∧ ∀ c ∈ text.toList, c ≠ '\n' ∧ c ≠ '\r'

def Kept (cfg : Json) (before : List Json) (device : Json) (after : List Json)
    (fault : Option String) : Prop :=
  ∀ type, Shown device type → ¬ Blank other (criterion device type) → fault = none →
    Writable cfg before device after →
      Plain (criterion device type) ∧ (type = .vendorProduct → (matchOf device).nameContains = "")

section Matching

variable {m : DeviceMatch} {value : String}

lemma sameNodes_path (hv : value ≠ "") : SameNodes (only value .path) m ↔ m.path = value := by
  constructor
  · intro h
    have hnode := h ⟨"", ""⟩ value
    by_contra hne
    simp [sysfsMatches, only, hv] at hnode
    rcases hnode with ⟨-, rfl⟩
    exact hne rfl
  · rintro rfl info path
    simp [sysfsMatches, only, hv]

lemma sameNodes_vendorProduct (hp : m.path = "") (hv : value ≠ "") :
    SameNodes (only value .vendorProduct) m ↔ m.vendorProduct = value ∧ m.nameContains = "" := by
  constructor
  · intro h
    have hown := h ⟨"", value⟩ ""
    have hname := h ⟨m.nameContains, ""⟩ ""
    simp [sysfsMatches, only, hv, hp] at hown hname
    exact ⟨hown.2.symm, hname⟩
  · rintro ⟨rfl, hn⟩ info path
    congr 1
    cases m
    simp_all [only]

lemma sameNodes_name (hp : m.path = "") (hvp : m.vendorProduct = "") (hv : value ≠ "") :
    SameNodes (only value .name) m ↔ m.nameContains = value := by
  constructor
  · intro h
    have hown := h ⟨value, ""⟩ ""
    have hold := h ⟨m.nameContains, ""⟩ ""
    simp [sysfsMatches, only, hv, hp, hvp] at hown hold
    obtain ⟨hne, hnew⟩ := hown
    have hback := of_decide_eq_true (hold hne)
    exact String.toList_injective (hnew.eq_of_length_le hback.length_le)
  · rintro rfl info path
    congr 1
    cases m
    simp_all [only]

end Matching

section Saving

variable {other} {device device' : Json} {type : MatchType} {value : String} {v : Json}

lemma matchOf_of_object {members : List (String × Json)}
    (h : (device.field "match").bind Json.object? = some members) (type : MatchType) :
    effective (matchOf device) type = ((criterion device type).string?).getD "" := by
  have hmember : ∀ name, ((members.lookup name).bind Json.string?).getD "" =
      (((members.lookup name).getD .null).string?).getD "" := by
    intro name
    cases members.lookup name <;> rfl
  simp only [matchOf, criterion, h, Option.getD_some]
  cases type <;> exact hmember _

lemma criterion_of_not_object (h : (device.field "match").bind Json.object? = none)
    (type : MatchType) : criterion device type = .null := by
  rw [criterion, h]
  rfl

lemma effective_of_falsy {members : List (String × Json)}
    (h : (device.field "match").bind Json.object? = some members)
    (hf : truthy (criterion device type) = false) : effective (matchOf device) type = "" := by
  rw [matchOf_of_object h]
  cases hc : criterion device type with
  | string s => simpa [hc, truthy, Json.string?] using hf
  | _ => rfl

lemma matchSummary_iff :
    matchSummary device = some (type, v) ↔ Shown device type ∧ criterion device type = v := by
  have hfind : ([.path, .vendorProduct, .name].find? fun type => truthy (criterion device type)) =
      some type ↔ Shown device type := by
    simp only [List.find?_cons, List.find?_nil, Shown]
    cases hp : truthy (criterion device .path)
    · cases hvp : truthy (criterion device .vendorProduct)
      · cases hn : truthy (criterion device .name) <;> cases type <;> simp [MatchType.earlier, hp, hvp, hn]
      · cases type <;> simp [MatchType.earlier, hp, hvp]
    · cases type <;> simp [MatchType.earlier, hp]
  rw [matchSummary, Option.map_eq_some_iff]
  constructor
  · rintro ⟨type', hs, he⟩
    obtain ⟨rfl, rfl⟩ := Prod.mk.inj he
    exact ⟨hfind.mp hs, rfl⟩
  · rintro ⟨hs, rfl⟩
    exact ⟨type, hfind.mpr hs, rfl⟩

lemma sent_empty_iff (v : Json) :
    String.ofList (trim isSpace (fieldValue other v)) = "" ↔ Blank other v := by
  rw [String.ofList_eq_empty_iff, trim_eq_nil_iff, Blank]

lemma submitted_iff : submitted other device = some (type, value) ↔ Shown device type ∧
    ¬ Blank other (criterion device type) ∧
      String.ofList (trim isSpace (fieldValue other (criterion device type))) = value := by
  simp only [submitted, Option.bind_eq_bind, Option.bind_eq_some_iff]
  constructor
  · rintro ⟨⟨type', v⟩, hs, h⟩
    obtain ⟨hne, h⟩ := Option.ite_none_left_eq_some.mp h
    obtain ⟨rfl, rfl⟩ := Prod.mk.inj (Option.some.inj h)
    obtain ⟨hshown, rfl⟩ := matchSummary_iff.mp hs
    exact ⟨hshown, mt (sent_empty_iff _).mpr hne, rfl⟩
  · rintro ⟨hshown, hne, rfl⟩
    exact ⟨_, matchSummary_iff.mpr ⟨hshown, rfl⟩, if_neg (mt (sent_empty_iff _).mp hne)⟩

lemma Shown.unique {type' : MatchType} (h : Shown device type) (h' : Shown device type') :
    type = type' := by
  have hs := matchSummary_iff.mpr ⟨h, rfl⟩
  have hs' := matchSummary_iff.mpr ⟨h', rfl⟩
  exact (Prod.mk.inj (Option.some.inj (hs.symm.trans hs'))).1

lemma Shown.members (h : Shown device type) :
    ∃ members, (device.field "match").bind Json.object? = some members := by
  cases hm : (device.field "match").bind Json.object? with
  | none =>
    rw [Shown, criterion_of_not_object hm] at h
    cases h.1
  | some members => exact ⟨members, rfl⟩

lemma Shown.earlier_empty (h : Shown device type) :
    ∀ earlier ∈ type.earlier, effective (matchOf device) earlier = "" := by
  obtain ⟨members, hm⟩ := h.members
  exact fun earlier he => effective_of_falsy hm (Bool.eq_false_iff.mpr (h.2 earlier he))

lemma submitted_ne_empty (h : submitted other device = some (type, value)) : value ≠ "" := by
  obtain ⟨-, hblank, rfl⟩ := submitted_iff.mp h
  exact mt (sent_empty_iff _).mp hblank

lemma effective_eq_iff (h : submitted other device = some (type, value)) :
    effective (matchOf device) type = value ↔ Plain (criterion device type) := by
  have hne := submitted_ne_empty h
  obtain ⟨hshown, -, hvalue⟩ := submitted_iff.mp h
  obtain ⟨members, hm⟩ := hshown.members
  rw [matchOf_of_object hm]
  cases hc : criterion device type with
  | string text =>
    rw [hc] at hvalue
    have hsent : text = value ↔ String.ofList (trim isSpace (fieldText text.toList)) = text := by
      rw [← hvalue, eq_comm]
      rfl
    simpa [Plain, Json.string?] using hsent.trans (sent_text_iff text)
  | _ => simpa [Plain, Json.string?] using hne.symm

lemma sameNodes_only (h : submitted other device = some (type, value)) :
    SameNodes (only value type) (matchOf device) ↔ Plain (criterion device type) ∧
      (type = .vendorProduct → (matchOf device).nameContains = "") := by
  have hne := submitted_ne_empty h
  have hempty := (submitted_iff.mp h).1.earlier_empty
  rw [← effective_eq_iff h]
  cases type with
  | path => simpa [effective] using sameNodes_path hne
  | vendorProduct =>
    have hp : (matchOf device).path = "" := hempty .path List.mem_cons_self
    simpa [effective] using sameNodes_vendorProduct hp hne
  | name =>
    have hp : (matchOf device).path = "" := hempty .path List.mem_cons_self
    have hvp : (matchOf device).vendorProduct = "" :=
      hempty .vendorProduct (List.mem_cons_of_mem _ List.mem_cons_self)
    simpa [effective] using sameNodes_name hp hvp hne

def merged (device : Json) (type : MatchType) (value : String) (grab : Bool) : Json :=
  (device.set "match" (.object [(type.key, .string value)])).set "grab" (.bool grab)

lemma merged_field (grab : Bool) {name : String} (hm : name ≠ "match") (hg : name ≠ "grab") :
    (merged device type value grab).field name = device.field name := by
  rw [merged, Json.field_set, if_neg hg, Json.field_set, if_neg hm]

lemma merged_match (grab : Bool) : (merged device type value grab).field "match" =
    some (.object [(type.key, .string value)]) := by
  rw [merged, Json.field_set, if_neg (by decide), Json.field_set, if_pos rfl]

lemma merged_grab (grab : Bool) :
    (merged device type value grab).field "grab" = some (.bool grab) := by
  rw [merged, Json.field_set, if_pos rfl]

lemma matchOf_merged (grab : Bool) : matchOf (merged device type value grab) = only value type := by
  rw [matchOf, merged_match]
  cases type <;> rfl

lemma validateDevice_merged (grab : Bool) :
    validateDevice (merged device type value grab) = .ok () ↔ Accepted device := by
  have hid : deviceId (merged device type value grab) = deviceId device := by
    rw [deviceId, merged_field grab (by decide) (by decide)]
    rfl
  have hbindings : validateBindings (merged device type value grab) = validateBindings device := by
    rw [validateBindings, merged_field grab (by decide) (by decide)]
    rfl
  have hobject : (merged device type value grab).isObject = true := rfl
  simp only [validateDevice, check_bind_eq_ok, hid, Accepted, ← hbindings, hobject, require_ok_iff]
  cases deviceId device with
  | none => simp
  | some id =>
    simp only [check_bind_eq_ok, validateMatch, merged_match, require_ok_iff, checkMember,
      merged_grab]
    simp [isBool, Json.bool?, Json.isObject]

lemma updated_formBody (grab : Bool) : updated (formBody type value grab) device =
    (refusing 400 "invalid device: " (validateDevice (merged device type value grab))).map
      fun _ => merged device type value grab := by
  have hmatch : mergeMember (formBody type value grab) "match" device =
      .ok (device.set "match" (.object [(type.key, .string value)])) := rfl
  have hgrab : mergeMember (formBody type value grab) "grab"
      (device.set "match" (.object [(type.key, .string value)])) =
      .ok (merged device type value grab) := rfl
  simp only [updated, hmatch, DeviceEndpoints.raising, Except.mapError, ok_bind, hgrab]
  cases validateDevice (merged device type value grab) <;> rfl

end Saving

section Documents

variable {C : Codec} {other} {device : Json} {type : MatchType} {value : String} {cfg cfg' : Json}
  {before after : List Json} {text : Bytes} {id : String}

lemma updated_iff (grab : Bool) {device' : Json} :
    updated (formBody type value grab) device = .ok device' ↔
      Accepted device ∧ device' = merged device type value grab := by
  have haccepted : validateDevice (merged device type value grab) = .ok () ↔ Accepted device :=
    validateDevice_merged grab
  rw [updated_formBody, ← haccepted]
  cases validateDevice (merged device type value grab) with
  | error e => simp [refusing, Except.mapError, Except.map]
  | ok u => simp [refusing, Except.mapError, Except.map, eq_comm]

lemma updateFirst_found {body d d' : Json} (hbefore : ∀ b ∈ before, hasId id b = .ok false)
    (hd : hasId id d = .ok true) (hu : updated body d = .ok d') :
    updateFirst id body (before ++ d :: after) = .ok (some (before ++ d' :: after)) := by
  induction before with
  | nil =>
    simp only [List.nil_append, updateFirst, bind_eq_ok, raising_eq_ok]
    refine ⟨true, hd, ?_⟩
    simp only [if_true, bind_eq_ok]
    exact ⟨d', hu, rfl⟩
  | cons b before ih =>
    obtain ⟨hb, hrest⟩ := List.forall_mem_cons.mp hbefore
    simp only [List.cons_append, updateFirst, bind_eq_ok, raising_eq_ok]
    refine ⟨false, hb, ?_⟩
    simp only [Bool.false_eq_true, if_false, bind_eq_ok]
    exact ⟨_, ih hrest, rfl⟩

lemma deviceId_merged (grab : Bool) :
    deviceId (merged device type value grab) = deviceId device := by
  rw [deviceId, merged_field grab (by decide) (by decide), deviceId]

lemma formId_of_deviceId (h : deviceId device = some id) : formId other device = id := by
  rw [formId, (deviceId_eq_some_iff.mp h).1]
  rfl

lemma hasId_other {d : Json} {id' : String} (hd : deviceId d = some id') (hne : id' ≠ id) :
    hasId id d = .ok false := by
  rw [hasId_of_isBlock (deviceId_eq_some_iff.mp hd).1, beq_false_of_ne hne]

def rewritten (cfg : Json) (before : List Json) (device : Json) (after : List Json)
    (type : MatchType) (value : String) (grab : Bool) : Json :=
  cfg.set "devices" (.array (before ++ merged device type value grab :: after))

lemma rewritten_valid (grab : Bool) (hw : Writable cfg before device after) :
    ValidConfig (rewritten cfg before device after type value grab) := by
  have hother : ∀ name, name ≠ "devices" → ∀ v,
      (cfg.set "devices" v).field name = cfg.field name := by
    intro name hn v
    rw [Json.field_set, if_neg hn]
  obtain ⟨hothers, hafter⟩ := List.forall_mem_append.mp hw.others
  have hdevice : ∃ id, ValidDevice (merged device type value grab) id :=
    validateDevice_ok_iff.mp ((validateDevice_merged grab).mpr hw.block)
  constructor
  · rfl
  · rw [rewritten, hother _ (by decide)]
    exact hw.daemon
  · rw [rewritten, hother _ (by decide)]
    exact hw.debug
  · rw [rewritten, hother _ (by decide)]
    exact hw.controlSocket
  · rw [rewritten, Json.field_set, if_pos rfl]
    rintro m ⟨⟩
    rfl
  · rw [rewritten, elements_set]
    exact List.forall_mem_append.mpr ⟨hothers, List.forall_mem_cons.mpr ⟨hdevice, hafter⟩⟩
  · have hids := hw.distinct
    rw [List.map_append, List.map_cons] at hids
    rw [rewritten, elements_set, List.map_append, List.map_cons, deviceId_merged]
    exact hids

lemma edited_of_writable (grab : Bool) (hread : ConfigStore.read C configPath (some text) = .ok cfg)
    (hdevices : elements cfg = before ++ device :: after) (hw : Writable cfg before device after) :
    edited C (.put (formId other device) (some (formBody type value grab))) (some text) =
      .ok (rewritten cfg before device after type value grab) := by
  obtain ⟨id, hid⟩ := Option.isSome_iff_exists.mp hw.block.1
  have hsame : hasId id device = .ok true := by
    rw [hasId_of_isBlock (deviceId_eq_some_iff.mp hid).1, beq_self_eq_true]
  have hbefore : ∀ b ∈ before, hasId id b = .ok false := by
    intro b hb
    obtain ⟨id', hv⟩ := hw.others b (List.mem_append_left after hb)
    refine hasId_other hv.deviceId_eq ?_
    rintro rfl
    have hids := hw.distinct
    rw [List.map_append, List.map_cons, hid, ← hv.deviceId_eq] at hids
    exact (List.disjoint_of_nodup_append hids) (List.mem_map_of_mem hb) List.mem_cons_self
  have hupdated : updated (formBody type value grab) device = .ok (merged device type value grab) :=
    (updated_iff grab).mpr ⟨hw.block, rfl⟩
  have hfound : updateFirst id (formBody type value grab) (before ++ device :: after) =
      .ok (some (before ++ merged device type value grab :: after)) :=
    updateFirst_found hbefore hsame hupdated
  have hvalid : validate (rewritten cfg before device after type value grab) = .ok () :=
    validate_ok_iff.mpr (rewritten_valid grab hw)
  have happly : (Edit.update id (formBody type value grab)).apply cfg =
      .ok (rewritten cfg before device after type value grab) := by
    rw [Edit.apply, updateDevice, hdevices]
    exact bind_eq_ok.mpr ⟨_, hfound, rfl⟩
  simp only [formId_of_deviceId hid, edited, bind_eq_ok, refusing_eq_ok, checkWrite]
  exact ⟨_, rfl, cfg, hread, _, happly, (), hvalid, rfl⟩

lemma nodup_deviceIds {b a : List Json} {d : Json} (grab : Bool)
    (h : ((b ++ merged d type value grab :: a).map deviceId).Nodup) :
    ((b ++ d :: a).map deviceId).Nodup := by
  rwa [List.map_append, List.map_cons, deviceId_merged, ← List.map_cons, ← List.map_append] at h

lemma hasId_formId {d : Json} (h : ∃ id, ValidDevice d id) : hasId (formId other d) d = .ok true := by
  obtain ⟨id, hv⟩ := h
  rw [formId_of_deviceId hv.deviceId_eq, hasId_of_isBlock hv.id_eq, beq_self_eq_true]

lemma found_is_shown {b a : List Json} {d : Json} (grab : Bool)
    (he : before ++ device :: after = b ++ d :: a)
    (hb : ∀ x ∈ b, hasId (formId other device) x = .ok false)
    (hd : hasId (formId other device) d = .ok true) (hblock : (deviceId d).isSome)
    (hvalid : ∀ x ∈ b ++ a, ∃ id, ValidDevice x id)
    (hids : ((b ++ merged d type value grab :: a).map deviceId).Nodup) :
    before = b ∧ device = d ∧ after = a := by
  obtain ⟨hvalidb, hvalida⟩ := List.forall_mem_append.mp hvalid
  rcases List.append_eq_append_iff.mp he with ⟨c, rfl, hc⟩ | ⟨c, rfl, hc⟩
  · cases c with
    | nil =>
      obtain ⟨rfl, rfl⟩ := List.cons.inj hc
      exact ⟨(List.append_nil _).symm, rfl, rfl⟩
    | cons x c =>
      obtain ⟨rfl, -⟩ := List.cons.inj hc
      have hmem : device ∈ before ++ device :: c := List.mem_append_right _ List.mem_cons_self
      have hfalse := hb device hmem
      rw [hasId_formId (hvalidb device hmem)] at hfalse
      cases hfalse
  · cases c with
    | nil =>
      obtain ⟨rfl, rfl⟩ := List.cons.inj hc
      exact ⟨List.append_nil _, rfl, rfl⟩
    | cons x c =>
      obtain ⟨rfl, rfl⟩ := List.cons.inj hc
      have hmem : device ∈ c ++ device :: after := List.mem_append_right _ List.mem_cons_self
      obtain ⟨id, hv⟩ := hvalida device hmem
      obtain ⟨id', hid'⟩ := Option.isSome_iff_exists.mp hblock
      rw [formId_of_deviceId hv.deviceId_eq, hasId_of_isBlock (deviceId_eq_some_iff.mp hid').1] at hd
      obtain rfl : id' = id := beq_iff_eq.mp (Except.ok.inj hd)
      -- two blocks would have the same id
      have hdistinct := nodup_deviceIds grab hids
      rw [List.map_append, List.map_cons, hid', ← hv.deviceId_eq, List.nodup_append] at hdistinct
      exact absurd (List.mem_map_of_mem hmem) (List.nodup_cons.mp hdistinct.2.1).1

lemma writable_of_edited (grab : Bool) (hread : ConfigStore.read C configPath (some text) = .ok cfg)
    (hdevices : elements cfg = before ++ device :: after)
    (h : edited C (.put (formId other device) (some (formBody type value grab))) (some text) =
      .ok cfg') : Writable cfg before device after := by
  obtain ⟨edit, cfg₀, hp, hr, happly, hv⟩ := edited_ok h
  obtain rfl := Except.ok.inj hp
  obtain rfl := Except.ok.inj (hread.symm.trans hr)
  have hset := apply_set happly
  obtain ⟨b, d, a, d', he, he', hb, hd, hu⟩ := updateDevice_ok happly
  obtain ⟨haccepted, rfl⟩ := (updated_iff grab).mp hu
  have hvalid := hv.devices
  have hids := hv.distinct
  rw [he'] at hvalid hids
  obtain ⟨hvalidb, hvalida⟩ := List.forall_mem_append.mp hvalid
  have hothers : ∀ x ∈ b ++ a, ∃ id, ValidDevice x id :=
    List.forall_mem_append.mpr ⟨hvalidb, (List.forall_mem_cons.mp hvalida).2⟩
  obtain ⟨rfl, rfl, rfl⟩ := found_is_shown grab (hdevices.symm.trans he) hb hd haccepted.1 hothers hids
  have hother : ∀ name, name ≠ "devices" → cfg'.field name = cfg.field name := by
    intro name hn
    rw [hset, Json.field_set, if_neg hn]
  refine ⟨?_, ?_, ?_, hothers, haccepted, nodup_deviceIds grab hids⟩
  · rw [← hother _ (by decide)]
    exact hv.daemon
  · rw [← hother _ (by decide)]
    exact hv.debug
  · rw [← hother _ (by decide)]
    exact hv.controlSocket

lemma save_refused (grab : Bool) (hs : submitted other device = some (type, value))
    (hread : ConfigStore.read C configPath (some text) = .ok cfg)
    (hdevices : elements cfg = before ++ device :: after) {fault : Option String}
    (h : fault = none → ¬ Writable cfg before device after) :
    save other C device grab fault (some text) = some text := by
  simp only [save, hs, handle]
  cases he : edited C (.put (formId other device) (some (formBody type value grab))) (some text) with
  | error failure => rfl
  | ok cfg' =>
    cases fault with
    | some error => rfl
    | none => exact absurd (writable_of_edited grab hread hdevices he) (h rfl)

lemma save_written (grab : Bool) (hs : submitted other device = some (type, value))
    (hread : ConfigStore.read C configPath (some text) = .ok cfg)
    (hdevices : elements cfg = before ++ device :: after) (hw : Writable cfg before device after) :
    save other C device grab none (some text) =
      some (C.streamWriter (rewritten cfg before device after type value grab)) := by
  simp only [save, hs, handle, edited_of_writable grab hread hdevices hw]

lemma matchesAsBefore_rewritten (grab : Bool) (hs : submitted other device = some (type, value))
    (hround : C.charReader (C.streamWriter (rewritten cfg before device after type value grab)) =
      some (rewritten cfg before device after type value grab))
    (hw : Writable cfg before device after) :
    MatchesAsBefore C (some (C.streamWriter (rewritten cfg before device after type value grab)))
        before device ↔
      Plain (criterion device type) ∧
        (type = .vendorProduct → (matchOf device).nameContains = "") := by
  have hread := read_written hround (rewritten_valid grab hw)
  have hblock : (elements (rewritten cfg before device after type value grab))[before.length]? =
      some (merged device type value grab) := by
    rw [rewritten, elements_set]
    simp
  have hmatch : matchOf (merged device type value grab) = only value type := matchOf_merged grab
  rw [← sameNodes_only hs, ← hmatch]
  constructor
  · rintro ⟨cfg', device', hr, hd, hsame⟩
    obtain rfl := Except.ok.inj (hread.symm.trans hr)
    obtain rfl := Option.some.inj (hblock.symm.trans hd)
    exact hsame
  · exact fun hsame => ⟨_, _, hread, hblock, hsame⟩

lemma kept_iff (hs : submitted other device = some (type, value))
    (hw : Writable cfg before device after) : Kept other cfg before device after none ↔
      Plain (criterion device type) ∧
        (type = .vendorProduct → (matchOf device).nameContains = "") := by
  obtain ⟨hshown, hblank, -⟩ := submitted_iff.mp hs
  constructor
  · exact fun hkept => hkept type hshown hblank rfl hw
  · intro hall type' hshown' _ _ _
    obtain rfl := hshown.unique hshown'
    exact hall

end Documents

/-- The block matches the same nodes after the form has been saved exactly if nothing is sent or
written, or the form has shown all that decides which nodes those are, without a change. -/
theorem saved_form_keeps_match_iff (C : Codec) (text : Bytes) (cfg : Json) (before after : List Json)
    (device : Json) (grab : Bool) (fault : Option String)
    (hread : ConfigStore.read C configPath (some text) = .ok cfg)
    (hdevices : elements cfg = before ++ device :: after)
    (hround : ∀ type value cfg', submitted other device = some (type, value) →
      edited C (.put (formId other device) (some (formBody type value grab))) (some text) = .ok cfg' →
      C.charReader (C.streamWriter cfg') = some cfg') :
    MatchesAsBefore C (save other C device grab fault (some text)) before device ↔
      Kept other cfg before device after fault := by
  have hsame : MatchesAsBefore C (some text) before device :=
    ⟨cfg, device, hread, by simp [hdevices], fun _ _ => rfl⟩
  cases h : submitted other device with
  | none =>
    have hfile : save other C device grab fault (some text) = some text := by rw [save, h]
    rw [hfile]
    refine iff_of_true hsame fun type hshown hblank => ?_
    have hsent := submitted_iff.mpr ⟨hshown, hblank, rfl⟩
    rw [h] at hsent
    cases hsent
  | some shown =>
    obtain ⟨type, value⟩ := shown
    by_cases hw : fault = none ∧ Writable cfg before device after
    · obtain ⟨rfl, hw⟩ := hw
      have hedited : edited C (.put (formId other device) (some (formBody type value grab)))
          (some text) = .ok (rewritten cfg before device after type value grab) :=
        edited_of_writable grab hread hdevices hw
      rw [save_written grab h hread hdevices hw, kept_iff h hw]
      exact matchesAsBefore_rewritten grab h (hround _ _ _ h hedited) hw
    · rw [save_refused grab h hread hdevices fun hf hw' => hw ⟨hf, hw'⟩]
      exact iff_of_true hsame fun _ _ _ hf hw' => absurd ⟨hf, hw'⟩ hw

def macroPad (criteria : List (String × Json)) : Json :=
  .object [("grab", .bool true), ("id", .string "macro_pad"), ("match", .object criteria)]

def padDocument (criteria : List (String × Json)) : Json :=
  .object [("devices", .array [macroPad criteria])]

def padText (criteria : List String) : Bytes := utf8 ("\n".intercalate ([
  "\x7b",
  "  \"devices\" : ",
  "  [",
  "    \x7b",
  "      \"grab\" : true,",
  "      \"id\" : \"macro_pad\",",
  "      \"match\" : ",
  "      \x7b"] ++ criteria ++ [
  "      \x7d",
  "    \x7d",
  "  ]",
  "\x7d"]))

def bothCriteria : List (String × Json) :=
  [("name", .string "BT5.1"), ("vendor_product", .string "04d9:0348")]

def bothText : Bytes :=
  padText ["        \"name\" : \"BT5.1\",", "        \"vendor_product\" : \"04d9:0348\""]

def oneCriterion : List (String × Json) := [("vendor_product", .string "04d9:0348")]

def oneText : Bytes := padText ["        \"vendor_product\" : \"04d9:0348\""]

def padCodec : Codec := .ofTable [(bothText, padDocument bothCriteria), (oneText, padDocument oneCriterion)]

lemma pad_submitted : submitted (fun _ => "") (macroPad oneCriterion) =
    some (.vendorProduct, "04d9:0348") := by
  decide

lemma pad_kept : Kept (fun _ => "") (padDocument oneCriterion) [] (macroPad oneCriterion) [] none := by
  intro type hshown _ _ _
  obtain rfl := (submitted_iff.mp pad_submitted).1.unique hshown
  have hline : ∀ c ∈ "04d9:0348".toList, c ≠ '\n' ∧ c ≠ '\r' :=
    List.all_iff_forall_prop.mp (by decide)
  exact ⟨⟨"04d9:0348", rfl, by rw [Trimmed]; decide, hline⟩, fun _ => rfl⟩

theorem plain_pad_kept : MatchesAsBefore padCodec
    (save (fun _ => "") padCodec (macroPad oneCriterion) true none (some oneText)) []
    (macroPad oneCriterion) := by
  refine (saved_form_keeps_match_iff (fun _ => "") padCodec oneText (padDocument oneCriterion) [] []
    (macroPad oneCriterion) true none (by decide) rfl ?_).mpr pad_kept
  intro type value cfg' hs he
  obtain ⟨rfl, rfl⟩ := Prod.mk.inj (Option.some.inj (pad_submitted.symm.trans hs))
  have hall : (edited padCodec (.put (formId (fun _ => "") (macroPad oneCriterion))
      (some (formBody .vendorProduct "04d9:0348" true))) (some oneText)).toOption.all
        fun cfg => padCodec.charReader (padCodec.streamWriter cfg) = some cfg := by
    decide
  rw [he] at hall
  exact of_decide_eq_true hall

theorem name_lost_on_save : ConfigStore.read padCodec configPath (some bothText) =
      .ok (padDocument bothCriteria) ∧
    ¬ MatchesAsBefore padCodec
      (save (fun _ => "") padCodec (macroPad bothCriteria) true none (some bothText)) []
      (macroPad bothCriteria) := by
  refine ⟨by decide, ?_⟩
  rintro ⟨cfg, device, hread, hdevice, hsame⟩
  have hsaved : save (fun _ => "") padCodec (macroPad bothCriteria) true none (some bothText) =
      some oneText := by
    decide
  have hone : ConfigStore.read padCodec configPath (some oneText) = .ok (padDocument oneCriterion) := by
    decide
  rw [hsaved, hone] at hread
  obtain rfl := Except.ok.inj hread
  obtain rfl := Option.some.inj hdevice
  have hnode := hsame ⟨"BT5.1 Mouse", "046d:c08b"⟩ "/dev/input/event3"
  exact absurd hnode (by decide)

end PointerForce.Bridge.EditForm
