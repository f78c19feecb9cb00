import PointerForce.Daemon.Mapper
import PointerForce.Foundations.Faults

/-! The configuration documents that the bridge reads, checks and is ready to write. -/

namespace PointerForce.Bridge.ConfigStore

open Foundations Foundations.Faults Daemon.Mapper

def configPath : String := "config/pointerforce.json"

def read (C : Codec) (path : String) (file : Option Bytes) : Except String Json :=
  match file with
  | none => .error ("cannot open '" ++ path ++
      "' (does it exist? if you're running the bridge standalone, " ++
      "check that config/ is symlinked to PointerForce/config as make.sh sets up)")
  | some content =>
    match C.charReader content with
    | none => .error ("invalid JSON: " ++ C.parseErrors content)
    | some out => if out.isObject then .ok out else .error "top-level config must be a JSON object"

def require (condition : Bool) (error : String) : Except String Unit :=
  if condition then .ok () else .error error

def checkMember (v : Json) (name : String) (check : Json → Bool) (error : String) :
    Except String Unit :=
  require ((v.field name).all check) error

def isBool (v : Json) : Bool := v.bool?.isSome
def isString (v : Json) : Bool := v.string?.isSome
def isArray (v : Json) : Bool := v.array?.isSome

def deviceId (device : Json) : Option String :=
  ((device.field "id").bind Json.string?).filter (· != "")

def validateMatch (device : Json) (id : String) : Except String Unit :=
  match device.field "match" with
  | some m => require m.isObject
      "device.match must be an object (with path, vendor_product, and/or name)"
  | none => require (id == wildcard)
      "device.match is required unless id is \"*\" (the wildcard device)"

def validateBinding (bindings : Json) (key : String) : Except String Unit :=
  require (((bindings.field key).map isString).getD false)
    ("device.bindings['" ++ key ++ "'] must be a string (shell command)")

def validateBindings (device : Json) : Except String Unit :=
  match device.field "bindings" with
  | some (.object members) => forM (members.map Prod.fst) (validateBinding (.object members))
  | some _ => .error "device.bindings must be an object mapping key names to shell commands"
  | none => .ok ()

def validateDevice (device : Json) : Except String Unit := do
  require device.isObject "each device entry must be an object"
  match deviceId device with
  | none => .error "device.id is required and must be a non-empty string"
  | some id =>
    validateMatch device id
    checkMember device "grab" isBool "device.grab must be a boolean"
    validateBindings device

def validateDevices (seenIds : List String) : List Json → Except String Unit
  | [] => .ok ()
  | device :: devices => do
    validateDevice device
    let id := (deviceId device).getD ""
    require (id ∉ seenIds) ("duplicate device id: '" ++ id ++ "'")
    validateDevices (id :: seenIds) devices

def elements (config : Json) : List Json := ((config.field "devices").bind Json.array?).getD []

def validate (config : Json) : Except String Unit := do
  require config.isObject "config must be a JSON object"
  checkMember config "daemon" isBool "'daemon' must be a boolean"
  checkMember config "debug" isBool "'debug' must be a boolean"
  checkMember config "control_socket" isString "'control_socket' must be a string"
  checkMember config "devices" isArray "'devices' must be an array"
  validateDevices [] (elements config)

structure ValidDevice (device : Json) (id : String) : Prop where
  object : device.isObject
  id_eq : device.field "id" = some (.string id)
  id_nonempty : id ≠ ""
  criteria : ∀ m, device.field "match" = some m → m.isObject
  wildcard_only : device.field "match" = none → id = wildcard
  grab : ∀ m, device.field "grab" = some m → isBool m
  bindings : ∀ m, device.field "bindings" = some m → ∃ members, m = .object members ∧
    ∀ key ∈ members.map Prod.fst, ∃ command, members.lookup key = some (.string command)

structure ValidConfig (config : Json) : Prop where
  object : config.isObject
  daemon : ∀ m, config.field "daemon" = some m → isBool m
  debug : ∀ m, config.field "debug" = some m → isBool m
  controlSocket : ∀ m, config.field "control_socket" = some m → isString m
  array : ∀ m, config.field "devices" = some m → isArray m
  devices : ∀ device ∈ elements config, ∃ id, ValidDevice device id
  distinct : ((elements config).map deviceId).Nodup

@[simp] lemma require_ok_iff {condition : Bool} {error : String} :
    require condition error = .ok () ↔ condition := by
  cases condition <;> simp [require]

lemma checkMember_ok_iff {v : Json} {name : String} {check : Json → Bool} {error : String} :
    checkMember v name check error = .ok () ↔ ∀ m, v.field name = some m → check m := by
  simp [checkMember, Option.all_eq_true]

lemma deviceId_eq_some_iff {device : Json} {id : String} :
    deviceId device = some id ↔ device.field "id" = some (.string id) ∧ id ≠ "" := by
  rw [deviceId]
  cases device.field "id" with
  | none => simp
  | some v => cases v <;> simp [Json.string?, Option.filter_eq_some_iff]

lemma validateMatch_ok_iff {device : Json} {id : String} : validateMatch device id = .ok () ↔
    (∀ m, device.field "match" = some m → m.isObject) ∧
      (device.field "match" = none → id = wildcard) := by
  rw [validateMatch]
  cases device.field "match" <;> simp

lemma validateBinding_ok_iff {members : List (String × Json)} {key : String} :
    validateBinding (.object members) key = .ok () ↔
      ∃ command, members.lookup key = some (.string command) := by
  rw [validateBinding, require_ok_iff, Json.field_object]
  cases members.lookup key with
  | none => simp
  | some v => cases v <;> simp [isString, Json.string?]

lemma validateBindings_ok_iff {device : Json} : validateBindings device = .ok () ↔
    ∀ m, device.field "bindings" = some m → ∃ members, m = .object members ∧
      ∀ key ∈ members.map Prod.fst, ∃ command, members.lookup key = some (.string command) := by
  rw [validateBindings]
  cases device.field "bindings" with
  | none => simp
  | some m =>
    cases m with
    | object members =>
      simp only [Option.some.injEq, forall_eq', Json.object.injEq, exists_eq_left',
        ← validateBinding_ok_iff]
      exact forM_ok_iff
    | _ => simp

lemma validateDevice_ok_iff {device : Json} :
    validateDevice device = .ok () ↔ ∃ id, ValidDevice device id := by
  cases hid : deviceId device with
  | none =>
    simp only [validateDevice, hid, check_bind_eq_ok, reduceCtorEq, and_false, false_iff, not_exists]
    intro id h
    rw [deviceId_eq_some_iff.mpr ⟨h.id_eq, h.id_nonempty⟩] at hid
    cases hid
  | some id =>
    obtain ⟨hf, hn⟩ := deviceId_eq_some_iff.mp hid
    simp only [validateDevice, hid, check_bind_eq_ok, require_ok_iff, validateMatch_ok_iff,
      checkMember_ok_iff, validateBindings_ok_iff]
    constructor
    · rintro ⟨ho, ⟨hm, hw⟩, hg, hb⟩
      exact ⟨id, ho, hf, hn, hm, hw, hg, hb⟩
    · rintro ⟨id', h⟩
      obtain rfl : id' = id := by simpa [hf] using h.id_eq.symm
      exact ⟨h.object, ⟨h.criteria, h.wildcard_only⟩, h.grab, h.bindings⟩

lemma ValidDevice.deviceId_eq {device : Json} {id : String} (h : ValidDevice device id) :
    deviceId device = some id := deviceId_eq_some_iff.mpr ⟨h.id_eq, h.id_nonempty⟩

lemma validateDevices_ok_iff {seenIds : List String} {devices : List Json} :
    validateDevices seenIds devices = .ok () ↔ (∀ device ∈ devices, ∃ id, ValidDevice device id) ∧
      (devices.map deviceId).Nodup ∧ ∀ id ∈ seenIds, some id ∉ devices.map deviceId := by
  induction devices generalizing seenIds with
  | nil => simp [validateDevices]
  | cons device devices ih =>
    simp only [validateDevices, check_bind_eq_ok, validateDevice_ok_iff, require_ok_iff,
      decide_eq_true_eq, ih, List.map_cons, List.nodup_cons, List.mem_cons, forall_eq_or_imp]
    constructor
    · rintro ⟨⟨id, h⟩, hs, hv, hn, hid, hrest⟩
      rw [h.deviceId_eq, Option.getD_some] at hs hid
      refine ⟨⟨⟨id, h⟩, hv⟩, ⟨h.deviceId_eq ▸ hid, hn⟩, ?_⟩
      rintro id' hm (he | hd)
      · obtain rfl := Option.some.inj (he.trans h.deviceId_eq)
        exact hs hm
      · exact hrest id' hm hd
    · rintro ⟨⟨⟨id, h⟩, hv⟩, ⟨hid, hn⟩, hrest⟩
      rw [h.deviceId_eq] at hid hrest ⊢
      exact ⟨⟨id, h⟩, fun hm => hrest id hm (.inl rfl), hv, hn, hid,
        fun id' hm hd => hrest id' hm (.inr hd)⟩

theorem validate_ok_iff {config : Json} : validate config = .ok () ↔ ValidConfig config := by
  simp only [validate, check_bind_eq_ok, require_ok_iff, checkMember_ok_iff, validateDevices_ok_iff]
  constructor
  · rintro ⟨ho, hd, hg, hs, ha, hv, hn, -⟩
    exact ⟨ho, hd, hg, hs, ha, hv, hn⟩
  · intro h
    exact ⟨h.object, h.daemon, h.debug, h.controlSocket, h.array, h.devices, h.distinct, by simp⟩

end PointerForce.Bridge.ConfigStore
