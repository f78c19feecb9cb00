import PointerForce.Bridge.ConfigStore
import PointerForce.Daemon.ConfigLoader

/-! What the daemon makes of a document that the bridge has accepted. The bridge checks the shape of
a document; the loader also skips the devices that nothing could match. -/

namespace PointerForce.Bridge.HonouredConfigs

open Foundations Daemon Daemon.ConfigLoader Daemon.Mapper ConfigStore

def criterion (device : Json) (name : String) : String :=
  (((device.field "match").bind (·.field name)).bind Json.string?).getD ""

def honoured (device : Json) : Bool :=
  deviceId device == some wildcard ||
    ["name", "vendor_product", "path"].any fun name => criterion device name != ""

def Honours (C : Codec) (K : KeyCodes) (path : String) (config : Json) (g : Config) : Prop :=
  ∃ g', (load C K path (some (C.streamWriter config))).run g = .ok true g' ∧
    g'.devices.map (some ·.id) = (elements config).map deviceId

variable {device : Json} {id : String}

lemma matchOf_of_match {members : List (String × Json)}
    (h : device.field "match" = some (.object members)) : matchOf device =
      { nameContains := criterion device "name"
        vendorProduct := criterion device "vendor_product"
        path := criterion device "path" } := by
  simp [matchOf, criterion, h, Json.object?]

lemma keptId_valid (h : ValidDevice device id) :
    keptId device = if honoured device then some id else none := by
  have hid : (device.field "id").bind Json.string? = some id := by rw [h.id_eq]; rfl
  rw [keptId, hid, honoured, h.deviceId_eq]
  by_cases hw : id = wildcard
  · simp [hw]
  · cases hm : device.field "match" with
    | none => exact absurd (h.wildcard_only hm) hw
    | some m =>
      obtain ⟨members, rfl⟩ : ∃ members, m = .object members := by
        have ho := h.criteria m hm
        cases m <;> simp_all [Json.isObject]
      rw [matchOf_of_match hm]
      simp [Option.filter, DeviceMatch.isEmpty, hw, or_assoc]

lemma readable_valid (K : KeyCodes) (h : ValidDevice device id) : Readable K device := by
  have hi : device.Indexable := by
    have ho := h.object
    cases device <;> simp_all [Json.isObject, Json.Indexable]
  refine ⟨hi, ?_⟩
  intro _ keyName hk _
  cases hb : device.field "bindings" with
  | none => simp [bindingMembers, hb] at hk
  | some m =>
    obtain ⟨members, rfl, hs⟩ := h.bindings m hb
    have hm : bindingMembers device = members := by simp [bindingMembers, hb, Json.object?]
    rw [hm] at hk ⊢
    obtain ⟨command, hc⟩ := hs keyName hk
    simp [commandOf, hc, Json.text?]

lemma keptDevices_valid (K : KeyCodes) {devices : List Json}
    (h : ∀ device ∈ devices, ∃ id, ValidDevice device id) :
    (keptDevices K devices).map (some ·.id) = (devices.filter honoured).map deviceId := by
  induction devices with
  | nil => rfl
  | cons device devices ih =>
    obtain ⟨id, hv⟩ := h device List.mem_cons_self
    have ht := ih fun d hd => h d (List.mem_cons_of_mem device hd)
    rw [keptDevices_cons, List.map_append, ht, deviceOf, keptId_valid hv]
    cases hh : honoured device <;> simp [hh, hv.deviceId_eq]

lemma load_valid (C : Codec) (K : KeyCodes) {config : Json}
    (hround : C.reader (C.streamWriter config) = some config) (h : ValidConfig config)
    (hd : (config.field "devices").isSome) (path : String) (g : Config) :
    (load C K path (some (C.streamWriter config))).run g =
      .ok true { cleared path config g with devices := keptDevices K (elements config) } := by
  obtain ⟨v, hf⟩ := Option.isSome_iff_exists.mp hd
  obtain ⟨devices, rfl⟩ : ∃ devices, v = .array devices := by
    have ha := h.array v hf
    cases v <;> simp_all [isArray, Json.array?]
  have he : elements config = devices := by simp [elements, hf, Json.array?]
  have hdevices : devicesOf config = some devices := by simp [devicesOf, hf, Json.array?]
  have hr : ∀ device ∈ devices, Readable K device := by
    intro device hm
    obtain ⟨id, hid⟩ := h.devices device (he ▸ hm)
    exact readable_valid K hid
  have hfile : (some (C.streamWriter config)).bind C.reader = some config := hround
  rw [he]
  exact load_readable hfile hdevices hr g

theorem load_after_validate (C : Codec) (K : KeyCodes) {config : Json}
    (hround : C.reader (C.streamWriter config) = some config) (hv : validate config = .ok ())
    (hd : (config.field "devices").isSome) (path : String) (g : Config) :
    ∃ g', (load C K path (some (C.streamWriter config))).run g = .ok true g' ∧
      g'.devices.map (some ·.id) = ((elements config).filter honoured).map deviceId := by
  have h := validate_ok_iff.mp hv
  exact ⟨_, load_valid C K hround h hd path g, keptDevices_valid K h.devices⟩

def mouseAndPad : Json :=
  .object [("devices", .array [
    .object [("id", .string "gaming_mouse"), ("match", .object [("name", .string "BT5.1 Mouse")])],
    .object [("bindings", .object []), ("id", .string "macro_pad"), ("match", .object [])]])]

def mouseAndPadText : Bytes := utf8 ("\n".intercalate [
  "\x7b",
  "  \"devices\" : ",
  "  [",
  "    \x7b",
  "      \"id\" : \"gaming_mouse\",",
  "      \"match\" : ",
  "      \x7b",
  "        \"name\" : \"BT5.1 Mouse\"",
  "      \x7d",
  "    \x7d,",
  "    \x7b",
  "      \"bindings\" : \x7b\x7d,",
  "      \"id\" : \"macro_pad\",",
  "      \"match\" : \x7b\x7d",
  "    \x7d",
  "  ]",
  "\x7d"])

lemma mouseAndPad_round : (Codec.ofTable [(mouseAndPadText, mouseAndPad)]).reader
    ((Codec.ofTable [(mouseAndPadText, mouseAndPad)]).streamWriter mouseAndPad) =
      some mouseAndPad := by
  have hw : (Codec.ofTable [(mouseAndPadText, mouseAndPad)]).streamWriter mouseAndPad =
      mouseAndPadText := rfl
  rw [hw]
  simp [Codec.ofTable]

theorem mouse_is_kept : ∃ g',
    (load (.ofTable [(mouseAndPadText, mouseAndPad)]) inputEventCodes configPath
      (some mouseAndPadText)).run {} = .ok true g' ∧
    g'.devices.map (some ·.id) = [some "gaming_mouse"] :=
  load_after_validate (.ofTable [(mouseAndPadText, mouseAndPad)]) inputEventCodes
    mouseAndPad_round rfl rfl configPath {}

theorem pad_is_skipped : validate mouseAndPad = .ok () ∧
    ¬ Honours (.ofTable [(mouseAndPadText, mouseAndPad)]) inputEventCodes configPath mouseAndPad {} := by
  have hv : validate mouseAndPad = .ok () := rfl
  have h := validate_ok_iff.mp hv
  refine ⟨hv, ?_⟩
  rintro ⟨g', hg, hids⟩
  rw [load_valid _ _ mouseAndPad_round h rfl] at hg
  obtain rfl := (EStateM.Result.ok.inj hg).2
  rw [keptDevices_valid inputEventCodes h.devices] at hids
  cases hids

end PointerForce.Bridge.HonouredConfigs
