import PointerForce.Bridge.ConcurrentEdits

/-! What one edit request does to the configuration file when no other request runs. A write either
replaces the whole file or fails without effect. -/

namespace PointerForce.Bridge.EditEffects

open Foundations Foundations.Faults ConfigStore DeviceEndpoints ConcurrentEdits

variable (C : Codec)

def edited (request : Request) (file : Option Bytes) : Except Failure Json := do
  let edit ← prepare request
  let cfg ← refusing 500 "failed to read config: " (ConfigStore.read C configPath file)
  let cfg ← edit.apply cfg
  checkWrite cfg
  return cfg

/-- The answer and the file afterwards. `fault` is the error of a write that fails. -/
def handle (request : Request) (fault : Option String) (file : Option Bytes) :
    Except Failure Unit × Option Bytes :=
  match edited C request file, fault with
  | .error failure, _ => (.error failure, file)
  | .ok _, some error => (.error (.answered 500 ("failed to write config: " ++ error)), file)
  | .ok cfg, none => (.ok (), some (C.streamWriter cfg))

def idText (device : Json) : Option String := (device.field "id").bind Json.text?

def SameOutside (names : List String) (v w : Json) : Prop :=
  ∀ name, name ∉ names → w.field name = v.field name

structure RequestedDevice (body device : Json) : Prop where
  id : device.field "id" = some ((body.field "id").getD .null)
  criteria : device.field "match" = some ((body.field "match").getD (.object []))
  grab : device.field "grab" = body.field "grab"
  bindings : device.field "bindings" = some ((body.field "bindings").getD (.object []))
  nothing_else : ∀ name, name ∉ ["id", "match", "grab", "bindings"] → device.field name = none

def UpdatedFirst (id : String) (body : Json) (ds ds' : List Json) : Prop :=
  ∃ before d after d', ds = before ++ d :: after ∧ ds' = before ++ d' :: after ∧
    (∀ b ∈ before, idText b ≠ some id) ∧ idText d = some id ∧
    SameOutside ["match", "grab"] d d' ∧
    ∀ name ∈ ["match", "grab"], d'.field name = (body.field name).or (d.field name)

def Changes : Request → List Json → List Json → Prop
  | .post body, ds, ds' => ∃ json device, body = some json ∧ RequestedDevice json device ∧
      ds' = ds ++ [device]
  | .put id body, ds, ds' => ∃ json, body = some json ∧ UpdatedFirst id json ds ds'
  | .delete id, ds, ds' => (∃ d ∈ ds, idText d = some id) ∧
      ds' = ds.filter fun d => idText d ≠ some id

structure Applied (request : Request) (cfg cfg' : Json) : Prop where
  outside : SameOutside ["devices"] cfg cfg'
  array : cfg'.field "devices" = some (.array (elements cfg'))
  devices : Changes request (elements cfg) (elements cfg')
  valid : ValidConfig cfg'

section Fields

variable {id : String} {d cfg cfg' body device : Json}

lemma hasId_ok {same : Bool} (h : hasId id d = .ok same) : same = decide (idText d = some id) := by
  rw [hasId] at h
  rw [idText]
  cases hf : d.field "id" with
  | none =>
    rw [hf] at h
    obtain rfl := Except.ok.inj h
    simp
  | some v =>
    rw [hf] at h
    obtain ⟨text, ht, he⟩ := bind_eq_ok.mp h
    obtain rfl := Except.ok.inj he
    have hv : v.text? = some text := by
      rw [Json.asString] at ht
      split at ht
      · next hv => rw [hv, Except.ok.inj ht]
      · cases ht
    simp [hv, Bool.beq_eq_decide_eq]

lemma newDevice_fields (h : newDevice body = .ok device) : RequestedDevice body device := by
  simp only [newDevice, bind_eq_ok] at h
  obtain ⟨v, hv, criteria, hc, grab, hg, bindings, hb, h⟩ := h
  obtain rfl := Except.ok.inj h
  obtain ⟨o, ho, he⟩ := bind_eq_ok.mp hv
  obtain rfl := Except.ok.inj he
  obtain rfl := Json.field_of_find ho
  obtain rfl := Json.field_of_find hc
  obtain rfl := Json.field_of_find hg
  obtain rfl := Json.field_of_find hb
  have hset : ∀ name, (Json.ofMembers ([("id", (body.field "id").getD .null),
      ("match", (body.field "match").getD (.object []))] ++
      ((body.field "grab").map fun g => ("grab", g)).toList ++
        [("bindings", (body.field "bindings").getD (.object []))])).field name =
      if name = "bindings" then some ((body.field "bindings").getD (.object []))
      else if name = "grab" then body.field "grab"
      else if name = "match" then some ((body.field "match").getD (.object []))
      else if name = "id" then some ((body.field "id").getD .null) else none := by
    intro name
    cases hgrab : body.field "grab" with
    | none =>
      simp only [Json.ofMembers, Option.map_none, Option.toList_none, List.append_nil,
        List.cons_append, List.nil_append, List.foldl_cons, List.foldl_nil, Json.field_set]
      by_cases hn : name = "grab"
      · subst hn
        rfl
      · rw [if_neg hn]
        rfl
    | some g =>
      simp only [Json.ofMembers, Option.map_some, Option.toList_some, List.cons_append, List.nil_append,
        List.foldl_cons, List.foldl_nil, Json.field_set]
      rfl
  constructor
  · rw [hset]; rfl
  · rw [hset]; rfl
  · rw [hset]; rfl
  · rw [hset]; rfl
  · intro name hn
    simp only [List.mem_cons, List.not_mem_nil, or_false, not_or] at hn
    rw [hset, if_neg hn.2.2.2, if_neg hn.2.2.1, if_neg hn.2.1, if_neg hn.1]

lemma updated_fields {d' : Json} (h : updated body d = .ok d') : SameOutside ["match", "grab"] d d' ∧
    ∀ name ∈ ["match", "grab"], d'.field name = (body.field name).or (d.field name) := by
  refine ⟨?_, (updated_ok h).2.2⟩
  simp only [updated, bind_eq_ok, raising_eq_ok, refusing_eq_ok] at h
  obtain ⟨d₁, h₁, d₂, h₂, ⟨⟩, -, he⟩ := h
  obtain rfl := Except.ok.inj he
  intro name hn
  simp only [List.mem_cons, List.not_mem_nil, or_false, not_or] at hn
  rw [mergeMember_ok h₂, if_neg hn.2, mergeMember_ok h₁, if_neg hn.1]

lemma sameOutside_set (cfg : Json) (devices : List Json) :
    SameOutside ["devices"] cfg (cfg.set "devices" (.array devices)) := by
  intro name hn
  rw [Json.field_set, if_neg (by simpa using hn)]

lemma updateDevice_split (h : updateDevice id body cfg = .ok cfg') :
    UpdatedFirst id body (elements cfg) (elements cfg') := by
  obtain ⟨before, d, after, d', he, he', hbefore, hd, hu⟩ := updateDevice_ok h
  obtain ⟨hout, hin⟩ := updated_fields hu
  refine ⟨before, d, after, d', he, he', fun b hb => ?_, ?_, hout, hin⟩
  · exact of_decide_eq_false (hasId_ok (hbefore b hb)).symm
  · exact of_decide_eq_true (hasId_ok hd).symm

lemma removeAll_filter {ds remaining : List Json} {found : Bool}
    (h : removeAll id ds = .ok (found, remaining)) :
    remaining = ds.filter (fun d => idText d ≠ some id) ∧
      (found = true → ∃ d ∈ ds, idText d = some id) := by
  induction ds generalizing found remaining with
  | nil =>
    obtain ⟨rfl, rfl⟩ := Prod.mk.inj (Except.ok.inj h)
    simp
  | cons d ds ih =>
    simp only [removeAll, bind_eq_ok] at h
    obtain ⟨same, hs, ⟨found', rest⟩, hr, he⟩ := h
    obtain ⟨rfl, rfl⟩ := Prod.mk.inj (Except.ok.inj he)
    obtain ⟨rfl, hfound⟩ := ih hr
    have hid := hasId_ok hs
    cases same with
    | true =>
      have hd : idText d = some id := of_decide_eq_true hid.symm
      exact ⟨by simp [hd], fun _ => ⟨d, List.mem_cons_self, hd⟩⟩
    | false =>
      have hd : idText d ≠ some id := of_decide_eq_false hid.symm
      refine ⟨by simp [hd], fun hf => ?_⟩
      obtain ⟨b, hb, hbid⟩ := hfound (by simpa using hf)
      exact ⟨b, List.mem_cons_of_mem d hb, hbid⟩

end Fields

section Requests

variable {C} {request : Request} {file : Option Bytes} {edit : Edit} {cfg cfg' : Json}

lemma apply_changes (hp : prepare request = .ok edit) (h : edit.apply cfg = .ok cfg') :
    Changes request (elements cfg) (elements cfg') := by
  cases request with
  | post body =>
    obtain ⟨json, device, rfl, hd, -, rfl⟩ := preparePost_ok hp
    exact ⟨json, device, rfl, newDevice_fields hd, appendDevice_ok h⟩
  | put id body =>
    cases body with
    | none => cases hp
    | some json =>
      obtain rfl := Except.ok.inj hp
      exact ⟨json, rfl, updateDevice_split h⟩
  | delete id =>
    obtain rfl := Except.ok.inj hp
    simp only [Edit.apply, removeDevice, bind_eq_ok, raising_eq_ok] at h
    obtain ⟨⟨found, remaining⟩, hr, h⟩ := h
    obtain ⟨rfl, hfound⟩ := removeAll_filter hr
    cases found with
    | false => cases h
    | true =>
      obtain rfl := Except.ok.inj h
      rw [elements_set]
      exact ⟨hfound rfl, rfl⟩

lemma edited_ok (h : edited C request file = .ok cfg') : ∃ edit cfg, prepare request = .ok edit ∧
    ConfigStore.read C configPath file = .ok cfg ∧ edit.apply cfg = .ok cfg' ∧
      ValidConfig cfg' := by
  simp only [edited, bind_eq_ok, refusing_eq_ok] at h
  obtain ⟨edit, hp, cfg, hr, cfg'', ha, ⟨⟩, hv, he⟩ := h
  obtain rfl := Except.ok.inj he
  exact ⟨edit, cfg, hp, hr, ha, validate_ok_iff.mp (refusing_eq_ok.mp hv)⟩

lemma applied (hp : prepare request = .ok edit) (h : edit.apply cfg = .ok cfg')
    (hv : ValidConfig cfg') : Applied request cfg cfg' := by
  have hset := apply_set h
  refine ⟨?_, ?_, apply_changes hp h, hv⟩
  · rw [hset]
    exact sameOutside_set cfg _
  · conv_lhs => rw [hset]
    rw [Json.field_set, if_pos rfl]

end Requests

theorem edits_one_block (request : Request) (fault : Option String) (file : Option Bytes)
    (hround : ∀ cfg, edited C request file = .ok cfg →
      C.charReader (C.streamWriter cfg) = some cfg) :
    ((∃ failure, (handle C request fault file).1 = .error failure) ∧
        (handle C request fault file).2 = file) ∨
      (handle C request fault file).1 = .ok () ∧ ∃ cfg cfg',
        ConfigStore.read C configPath file = .ok cfg ∧
        ConfigStore.read C configPath (handle C request fault file).2 = .ok cfg' ∧
        Applied request cfg cfg' := by
  cases he : edited C request file with
  | error failure => exact .inl (by simp [handle, he])
  | ok cfg' =>
    cases fault with
    | some error => exact .inl (by simp [handle, he])
    | none =>
      obtain ⟨edit, cfg, hp, hr, ha, hv⟩ := edited_ok he
      refine .inr ⟨by simp [handle, he], cfg, cfg', hr, ?_, applied hp ha hv⟩
      simp only [handle, he]
      exact read_written (hround cfg' he) hv

theorem left_pad_posted :
    (handle padsCodec (twoPosts .first) none (some (padsText []))).1 = .ok () ∧ ∃ cfg cfg',
      ConfigStore.read padsCodec configPath (some (padsText [])) = .ok cfg ∧
      ConfigStore.read padsCodec configPath
        (handle padsCodec (twoPosts .first) none (some (padsText []))).2 = .ok cfg' ∧
      Applied (twoPosts .first) cfg cfg' := by
  have hround : ∀ cfg, edited padsCodec (twoPosts .first) (some (padsText [])) = .ok cfg →
      padsCodec.charReader (padsCodec.streamWriter cfg) = some cfg := by
    intro cfg h
    obtain rfl := Except.ok.inj h
    rfl
  refine (edits_one_block padsCodec (twoPosts .first) none (some (padsText [])) hround).resolve_left ?_
  rintro ⟨⟨failure, hf⟩, -⟩
  cases hf

end PointerForce.Bridge.EditEffects
