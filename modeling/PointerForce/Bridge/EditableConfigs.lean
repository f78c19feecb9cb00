import PointerForce.Bridge.EditEffects
import PointerForce.Daemon.ConfigLoader

/-! Which of the documents that the daemon runs on the bridge is ready to edit. The loader takes more
than the documented form of a configuration, and the bridge writes nothing but that form. -/

namespace PointerForce.Bridge.EditableConfigs

open Foundations Foundations.Faults Daemon Daemon.ConfigLoader Daemon.Mapper ConfigStore
  DeviceEndpoints ConcurrentEdits EditEffects

def SkipsNothing (K : KeyCodes) (config : Json) : Prop :=
  ∀ dev ∈ elements config, (keptId dev).isSome ∧
    ∀ keyName ∈ (bindingMembers dev).map Prod.fst, 0 ≤ nameToCode K keyName

structure DocumentedDevice (dev : Json) : Prop where
  named : dev.field "id" ≠ some (.string "")
  criteria : ∀ m, dev.field "match" = some m → m.isObject
  wildcard_only : dev.field "match" = none → dev.field "id" = some (.string wildcard)
  grab : ∀ m, dev.field "grab" = some m → isBool m
  bindings : ∀ m, dev.field "bindings" = some m → ∃ members, m = .object members ∧
    ∀ key ∈ members.map Prod.fst, ∃ command, members.lookup key = some (.string command)

structure DocumentedForm (config : Json) : Prop where
  daemon : ∀ m, config.field "daemon" = some m → isBool m
  debug : ∀ m, config.field "debug" = some m → isBool m
  controlSocket : ∀ m, config.field "control_socket" = some m → isString m
  devices : ∀ dev ∈ elements config, DocumentedDevice dev
  distinct : ((elements config).map deviceId).Nodup

def WellFormedNew (config body : Json) : Prop :=
  ∃ device id, newDevice body = .ok device ∧ ValidDevice device id ∧
    ∀ d ∈ elements config, idText d ≠ some id

section Forms

variable {K : KeyCodes} {config dev body device : Json} {id : String}

lemma validDevice_iff (ho : dev.isObject) (hk : (keptId dev).isSome) :
    (∃ id, ValidDevice dev id) ↔ DocumentedDevice dev := by
  constructor
  · rintro ⟨id, h⟩
    refine ⟨?_, h.criteria, ?_, h.grab, h.bindings⟩
    · rw [h.id_eq]
      exact fun he => h.id_nonempty (Json.string.inj (Option.some.inj he))
    · exact fun hm => h.wildcard_only hm ▸ h.id_eq
  · intro h
    obtain ⟨id, hid⟩ := Option.isSome_iff_exists.mp hk
    have hf : dev.field "id" = some (.string id) := isBlock_of_givenId (keptId_eq_some.mp hid).1
    refine ⟨id, ho, hf, ?_, h.criteria, ?_, h.grab, h.bindings⟩
    · rintro rfl
      exact h.named hf
    · intro hm
      exact Json.string.inj (Option.some.inj (hf.symm.trans (h.wildcard_only hm)))

lemma isObject_of_kept (hk : (keptId dev).isSome) : dev.isObject := by
  obtain ⟨id, hid⟩ := Option.isSome_iff_exists.mp hk
  have hf := (keptId_eq_some.mp hid).1
  cases dev <;> simp_all [Json.field, Json.object?, Json.isObject]

lemma isObject_of_loadable (hl : Loadable K config) : config.isObject := by
  obtain ⟨devs, hd, -⟩ := hl
  cases config <;> simp_all [devicesOf, Json.field, Json.object?, Json.isObject]

lemma isArray_of_loadable (hl : Loadable K config) (m : Json)
    (hm : config.field "devices" = some m) : isArray m := by
  obtain ⟨devs, hd, -⟩ := hl
  rw [devicesOf, hm, Option.bind_some] at hd
  rw [isArray, hd, Option.isSome_some]

lemma loadable_of_load {C : Codec} {path : String} {text : Bytes} {g g' : Config}
    (hread : C.reader text = some config)
    (hload : (load C K path (some text)).run g = .ok true g') : Loadable K config := by
  have hfile : (some text).bind C.reader = some config := hread
  by_contra hno
  rcases load_not_loadable hfile hno g with he | ⟨e, he⟩ <;> · rw [he] at hload; cases hload

lemma validConfig_iff (hl : Loadable K config) (hs : SkipsNothing K config) :
    ValidConfig config ↔ DocumentedForm config := by
  have hdevices : (∀ dev ∈ elements config, ∃ id, ValidDevice dev id) ↔
      ∀ dev ∈ elements config, DocumentedDevice dev :=
    forall₂_congr fun dev hm => validDevice_iff (isObject_of_kept (hs dev hm).1) (hs dev hm).1
  constructor
  · exact fun h => ⟨h.daemon, h.debug, h.controlSocket, hdevices.mp h.devices, h.distinct⟩
  · intro h
    exact ⟨isObject_of_loadable hl, h.daemon, h.debug, h.controlSocket, isArray_of_loadable hl,
      hdevices.mpr h.devices, h.distinct⟩

lemma validConfig_append_iff (ho : config.isObject)
    (ha : ∀ m, config.field "devices" = some m → isArray m) :
    ValidConfig (config.set "devices" (.array (elements config ++ [device]))) ↔
      ValidConfig config ∧ (∃ id, ValidDevice device id) ∧
        deviceId device ∉ (elements config).map deviceId := by
  have hother : ∀ name, name ≠ "devices" → ∀ value,
      (config.set "devices" value).field name = config.field name := by
    intro name hn value
    rw [Json.field_set, if_neg hn]
  constructor
  · intro h
    obtain ⟨-, hdaemon, hdebug, hsocket, -, hdevices, hdistinct⟩ := h
    rw [hother _ (by decide)] at hdaemon hdebug hsocket
    rw [elements_set] at hdevices hdistinct
    rw [List.map_append, List.nodup_append] at hdistinct
    refine ⟨⟨ho, hdaemon, hdebug, hsocket, ha, ?_, hdistinct.1⟩, ?_, ?_⟩
    · exact fun d hd => hdevices d (List.mem_append_left _ hd)
    · exact hdevices device (List.mem_append_right _ (List.mem_singleton_self device))
    · exact fun hm => hdistinct.2.2 _ hm _ (List.mem_singleton_self _) rfl
  · rintro ⟨h, hd, hnew⟩
    constructor
    · rfl
    · rw [hother _ (by decide)]
      exact h.daemon
    · rw [hother _ (by decide)]
      exact h.debug
    · rw [hother _ (by decide)]
      exact h.controlSocket
    · rw [Json.field_set, if_pos rfl]
      rintro m ⟨⟩
      rfl
    · rw [elements_set, List.forall_mem_append]
      exact ⟨h.devices, by simpa using hd⟩
    · rw [elements_set, List.map_append, List.nodup_append]
      exact ⟨h.distinct, List.nodup_singleton _, by simpa using hnew⟩

lemma preparePost_wellFormed (h : newDevice body = .ok device) (hv : ValidDevice device id) :
    preparePost (some body) = .ok (.append device) := by
  have hid := (newDevice_fields h).id
  rw [hv.id_eq, Option.some.injEq] at hid
  obtain ⟨v, hget, -⟩ := bind_eq_ok.mp h
  obtain ⟨o, hfind, -⟩ := bind_eq_ok.mp hget
  obtain rfl := Json.field_of_find hfind
  have hmember : body.isMember "id" = .ok true := by
    cases hf : body.field "id" with
    | none => simp [hf] at hid
    | some v =>
      rw [Json.isMember, hfind, hf]
      rfl
  have hvalid : validateDevice device = .ok () := validateDevice_ok_iff.mpr ⟨id, hv⟩
  simp only [preparePost, bind_eq_ok, raising_eq_ok]
  exact ⟨true, hmember, bind_eq_ok.mpr ⟨device, raising_eq_ok.mpr h,
    bind_eq_ok.mpr ⟨(), refusing_eq_ok.mpr hvalid, rfl⟩⟩⟩

lemma anyM_hasId {ds : List Json} (h : ∀ d ∈ ds, hasId id d = .ok false) :
    ds.anyM (hasId id) = .ok false := by
  induction ds with
  | nil => rfl
  | cons d ds ih =>
    rw [List.anyM, h d List.mem_cons_self]
    exact ih fun b hb => h b (List.mem_cons_of_mem d hb)

lemma appendDevice_new (hd : deviceId device = some id)
    (hnew : ∀ d ∈ elements config, hasId id d = .ok false) :
    appendDevice device config =
      .ok (config.set "devices" (.array (elements config ++ [device]))) := by
  simp only [appendDevice, hd, Option.getD_some, anyM_hasId hnew]
  rfl

lemma hasId_of_valid {other : String} (h : ValidDevice dev other) (hne : idText dev ≠ some id) :
    hasId id dev = .ok false := by
  have hid : idText dev = some other := by rw [idText, h.id_eq]; rfl
  rw [hasId_of_isBlock h.id_eq, beq_eq_false_iff_ne.mpr fun he => hne (hid.trans (congrArg some he))]

lemma edited_post {C : Codec} {text : Bytes} (hread : C.charReader text = some config)
    (ho : config.isObject) (hdev : newDevice body = .ok device) (hv : ValidDevice device id)
    (hvalid : ValidConfig config) (hnew : ∀ d ∈ elements config, idText d ≠ some id) :
    edited C (.post (some body)) (some text) =
      .ok (config.set "devices" (.array (elements config ++ [device]))) := by
  have happend : appendDevice device config =
      .ok (config.set "devices" (.array (elements config ++ [device]))) := by
    refine appendDevice_new hv.deviceId_eq fun d hd => ?_
    obtain ⟨other, hother⟩ := hvalid.devices d hd
    exact hasId_of_valid hother (hnew d hd)
  have hread' : ConfigStore.read C configPath (some text) = .ok config := by
    simp only [ConfigStore.read, hread, ho, if_true]
  have hfresh : deviceId device ∉ (elements config).map deviceId := by
    rw [hv.deviceId_eq]
    intro hm
    obtain ⟨d, hd, he⟩ := List.mem_map.mp hm
    refine hnew d hd ?_
    rw [idText, (deviceId_eq_some_iff.mp he).1]
    rfl
  have hdocument := validate_ok_iff.mpr
    ((validConfig_append_iff ho hvalid.array).mpr ⟨hvalid, ⟨id, hv⟩, hfresh⟩)
  exact bind_eq_ok.mpr ⟨_, preparePost_wellFormed hdev hv, bind_eq_ok.mpr ⟨config,
    refusing_eq_ok.mpr hread', bind_eq_ok.mpr ⟨_, happend, bind_eq_ok.mpr ⟨(),
      refusing_eq_ok.mpr hdocument, rfl⟩⟩⟩⟩

lemma post_ok_iff {C : Codec} {text : Bytes} (hread : C.charReader text = some config)
    (ho : config.isObject) (ha : ∀ m, config.field "devices" = some m → isArray m)
    (hnew : WellFormedNew config body) :
    (handle C (.post (some body)) none (some text)).1 = .ok () ↔ ValidConfig config := by
  obtain ⟨device, id, hdev, hv, hid⟩ := hnew
  constructor
  · intro h
    cases he : edited C (.post (some body)) (some text) with
    | error failure => simp [handle, he] at h
    | ok cfg' =>
      obtain ⟨edit, cfg, hp, hr, happly, hvalid⟩ := edited_ok he
      obtain rfl : Edit.append device = edit :=
        Except.ok.inj ((preparePost_wellFormed hdev hv).symm.trans hp)
      obtain rfl : config = cfg := by
        simp only [ConfigStore.read, hread, ho, if_true] at hr
        exact Except.ok.inj hr
      rw [apply_set happly, appendDevice_ok happly] at hvalid
      exact ((validConfig_append_iff ho ha).mp hvalid).1
  · intro hvalid
    simp only [handle, edited_post hread ho hdev hv hvalid hid]

end Forms

theorem loaded_stays_editable (C : Codec) (K : KeyCodes) (path : String) (g g' : Config)
    {text : Bytes} {config : Json} (hread : C.reader text = some config)
    (hedit : C.charReader text = some config)
    (hload : (load C K path (some text)).run g = .ok true g') (hskip : SkipsNothing K config) :
    (validate config = .ok () ↔ DocumentedForm config) ∧
      ∀ body, WellFormedNew config body →
        ((handle C (.post (some body)) none (some text)).1 = .ok () ↔ DocumentedForm config) := by
  have hl : Loadable K config := loadable_of_load hread hload
  have hform := validConfig_iff hl hskip
  refine ⟨validate_ok_iff.trans hform, fun body hnew => ?_⟩
  rw [post_ok_iff hedit (isObject_of_loadable hl) (isArray_of_loadable hl) hnew, hform]

def oneMouse : Json :=
  .object [("devices", .array [
    .object [("id", .string "gaming_mouse"), ("match", .object [("name", .string "BT5.1 Mouse")])]])]

def oneMouseText : Bytes :=
  utf8 ("\x7b\"devices\":[\x7b\"id\":\"gaming_mouse\"," ++
    "\"match\":\x7b\"name\":\"BT5.1 Mouse\"\x7d\x7d]\x7d")

def barePath : Json :=
  .object [("devices", .array [
    .object [("id", .string "foot_pedal"), ("path", .string "/dev/input/event7")]])]

def barePathText : Bytes :=
  utf8 "\x7b\"devices\":[\x7b\"id\":\"foot_pedal\",\"path\":\"/dev/input/event7\"\x7d]\x7d"

def mouseCodec : Codec := .ofTable [(oneMouseText, oneMouse), (barePathText, barePath)]

lemma skipsNothing_of_single {K : KeyCodes} {config dev : Json} (hd : elements config = [dev])
    (hk : (keptId dev).isSome) (hb : bindingMembers dev = []) : SkipsNothing K config := by
  intro dev' hm
  rw [hd, List.mem_singleton] at hm
  subst hm
  exact ⟨hk, by simp [hb]⟩

def leftPad : Json := .object [("id", .string "left")]

lemma wellFormedNew_leftPad {config dev : Json} (hd : elements config = [dev])
    (hid : idText dev ≠ some "left") : WellFormedNew config leftPad := by
  obtain ⟨id, hvalid⟩ := validateDevice_ok_iff.mp (rfl : validateDevice (pad "left") = .ok ())
  obtain rfl : "left" = id := Json.string.inj (Option.some.inj hvalid.id_eq)
  refine ⟨pad "left", "left", rfl, hvalid, fun d hm => ?_⟩
  rw [hd, List.mem_singleton] at hm
  exact hm ▸ hid

theorem mouse_stays_editable : ∃ g', (load mouseCodec inputEventCodes configPath
      (some oneMouseText)).run {} = .ok true g' ∧ DocumentedForm oneMouse ∧
    validate oneMouse = .ok () ∧
      (handle mouseCodec (.post (some leftPad)) none (some oneMouseText)).1 = .ok () := by
  have hread : mouseCodec.reader oneMouseText = some oneMouse := rfl
  have hfile : (some oneMouseText).bind mouseCodec.reader = some oneMouse := hread
  have hl : Loadable inputEventCodes oneMouse := ⟨_, rfl, by decide⟩
  have hskip : SkipsNothing inputEventCodes oneMouse := skipsNothing_of_single rfl rfl rfl
  have hload : (load mouseCodec inputEventCodes configPath (some oneMouseText)).run {} =
      .ok true (installed inputEventCodes configPath oneMouse {}) := load_loadable hfile hl {}
  obtain ⟨hvalid, hpost⟩ :=
    loaded_stays_editable mouseCodec inputEventCodes configPath {} _ hread rfl hload hskip
  have hform : DocumentedForm oneMouse := hvalid.mp rfl
  have hnew : WellFormedNew oneMouse leftPad := wellFormedNew_leftPad rfl (by decide)
  exact ⟨_, hload, hform, rfl, (hpost leftPad hnew).mpr hform⟩

theorem bare_path_not_editable : (∃ g', (load mouseCodec inputEventCodes configPath
      (some barePathText)).run {} = .ok true g') ∧ SkipsNothing inputEventCodes barePath ∧
    WellFormedNew barePath leftPad ∧
    validate barePath ≠ .ok () ∧
    (handle mouseCodec (.post (some leftPad)) none (some barePathText)).1 ≠ .ok () := by
  have hfile : (some barePathText).bind mouseCodec.reader = some barePath := rfl
  have hl : Loadable inputEventCodes barePath := ⟨_, rfl, by decide⟩
  refine ⟨⟨_, load_loadable hfile hl {}⟩, skipsNothing_of_single rfl rfl rfl,
    wellFormedNew_leftPad rfl (by decide), ?_, ?_⟩
  · intro h
    cases h
  · intro h
    cases h

end PointerForce.Bridge.EditableConfigs
