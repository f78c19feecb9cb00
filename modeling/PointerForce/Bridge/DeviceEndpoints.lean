import PointerForce.Bridge.ConfigStore

/-! The three endpoints that edit one device of the configuration document. Each reads the file,
edits the document and writes it back. -/

namespace PointerForce.Bridge.DeviceEndpoints

open Foundations Foundations.Faults ConfigStore

inductive Failure where
  | answered (status : ℕ) (error : String)
  | raised (e : LogicError)
  deriving DecidableEq, Repr

inductive Request where
  | post (body : Option Json)
  | put (id : String) (body : Option Json)
  | delete (id : String)

inductive Edit where
  | append (device : Json)
  | update (id : String) (body : Json)
  | remove (id : String)

def raising {α : Type} (x : Except LogicError α) : Except Failure α := x.mapError .raised

def refusing {α : Type} (status : ℕ) (context : String) (x : Except String α) : Except Failure α :=
  x.mapError fun error => .answered status (context ++ error)

def newDevice (body : Json) : Except LogicError Json := do
  let id ← body.get "id"
  let criteria := (← body.find "match").getD (.object [])
  let grab ← body.find "grab"
  let bindings := (← body.find "bindings").getD (.object [])
  return .ofMembers ([("id", id), ("match", criteria)] ++
    (grab.map fun g => ("grab", g)).toList ++ [("bindings", bindings)])

def preparePost (body : Option Json) : Except Failure Edit :=
  match body with
  | none => .error (.answered 400 "request body must include at least 'id'")
  | some json => do
    if !(← raising (json.isMember "id")) then
      throw (.answered 400 "request body must include at least 'id'")
    let device ← raising (newDevice json)
    refusing 400 "invalid device: " (validateDevice device)
    return .append device

def prepare : Request → Except Failure Edit
  | .post body => preparePost body
  | .put _ none => .error (.answered 400 "request body must be valid JSON")
  | .put id (some body) => .ok (.update id body)
  | .delete id => .ok (.remove id)

-- `d.isObject() && d.isMember("id") && d["id"].asString() == id`
def hasId (id : String) (d : Json) : Except LogicError Bool :=
  match d.field "id" with
  | some v => return (← v.asString) == id
  | none => return false

def appendDevice (device cfg : Json) : Except Failure Json := do
  let newId := (deviceId device).getD ""
  if ← raising ((elements cfg).anyM (hasId newId)) then
    throw (.answered 400 ("device id '" ++ newId ++ "' already exists in config"))
  return cfg.set "devices" (.array (elements cfg ++ [device]))

def mergeMember (body : Json) (name : String) (d : Json) : Except LogicError Json := do
  match ← body.find name with
  | some v => return d.set name v
  | none => return d

def updated (body d : Json) : Except Failure Json := do
  let d ← raising (mergeMember body "match" d)
  let d ← raising (mergeMember body "grab" d)
  refusing 400 "invalid device: " (validateDevice d)
  return d

def updateFirst (id : String) (body : Json) : List Json → Except Failure (Option (List Json))
  | [] => return none
  | d :: ds => do
    if ← raising (hasId id d) then return some ((← updated body d) :: ds)
    else return (← updateFirst id body ds).map (d :: ·)

def notFound (id : String) : Failure := .answered 404 ("device '" ++ id ++ "' not found in config")

def updateDevice (id : String) (body cfg : Json) : Except Failure Json := do
  match ← updateFirst id body (elements cfg) with
  | some devices => return cfg.set "devices" (.array devices)
  | none => throw (notFound id)

def removeAll (id : String) : List Json → Except LogicError (Bool × List Json)
  | [] => return (false, [])
  | d :: ds => do
    let same ← hasId id d
    let (found, remaining) ← removeAll id ds
    return (same || found, if same then remaining else d :: remaining)

def removeDevice (id : String) (cfg : Json) : Except Failure Json := do
  let (found, remaining) ← raising (removeAll id (elements cfg))
  if !found then throw (notFound id)
  return cfg.set "devices" (.array remaining)

def Edit.apply : Edit → Json → Except Failure Json
  | .append device => appendDevice device
  | .update id body => updateDevice id body
  | .remove id => removeDevice id

def checkWrite (config : Json) : Except Failure Unit :=
  refusing 500 "failed to write config: refusing to write invalid config: " (validate config)

def givenId (device : Json) : Option String := (device.field "id").bind Json.string?

def Request.deviceId : Request → Option String
  | .post body => body.bind givenId
  | .put id _ => some id
  | .delete id => some id

def Edit.deviceId : Edit → Option String
  | .append device => givenId device
  | .update id _ => some id
  | .remove id => some id

def IsBlock (id : String) (d : Json) : Prop := d.field "id" = some (.string id)

def Edit.Effect : Edit → Json → Prop
  | .append device, cfg => device ∈ elements cfg
  | .update id body, cfg => ∃ d ∈ elements cfg, IsBlock id d ∧
      ∀ name ∈ ["match", "grab"], ∀ v, body.field name = some v → d.field name = some v
  | .remove id, cfg => ∀ d ∈ elements cfg, ¬ IsBlock id d

section Blocks

variable {α : Type} {id : String} {d : Json}

@[simp] lemma raising_eq_ok {x : Except LogicError α} {a : α} : raising x = .ok a ↔ x = .ok a := by
  cases x <;> simp [raising, Except.mapError]

@[simp] lemma refusing_eq_ok {status : ℕ} {context : String} {x : Except String α} {a : α} :
    refusing status context x = .ok a ↔ x = .ok a := by
  cases x <;> simp [refusing, Except.mapError]

lemma elements_set (cfg : Json) (devices : List Json) :
    elements (cfg.set "devices" (.array devices)) = devices := by
  simp [elements, Json.field_set, Json.array?]

lemma hasId_of_isBlock {other : String} (h : IsBlock other d) : hasId id d = .ok (other == id) := by
  rw [hasId, h]
  rfl

lemma isBlock_of_hasId {other : String} (h : hasId id d = .ok true)
    (hs : d.field "id" = some (.string other)) : IsBlock id d := by
  have he : (other == id) = true := Except.ok.inj ((hasId_of_isBlock hs).symm.trans h)
  rw [IsBlock, hs, beq_iff_eq.mp he]

lemma mergeMember_ok {body d d' : Json} {name : String} (h : mergeMember body name d = .ok d')
    (other : String) : d'.field other =
      if other = name then (body.field name).or (d.field name) else d.field other := by
  obtain ⟨v, hv, hd⟩ := bind_eq_ok.mp h
  rw [Json.field_of_find hv]
  cases v with
  | none =>
    obtain rfl := Except.ok.inj hd
    split_ifs with ho <;> simp [ho]
  | some v =>
    obtain rfl := Except.ok.inj hd
    rw [Json.field_set]
    rfl

lemma updated_ok {body d d' : Json} (h : updated body d = .ok d') :
    (∃ id, ValidDevice d' id) ∧ d'.field "id" = d.field "id" ∧
      ∀ name ∈ ["match", "grab"], d'.field name = (body.field name).or (d.field name) := by
  simp only [updated, bind_eq_ok, raising_eq_ok, refusing_eq_ok] at h
  obtain ⟨d₁, h₁, d₂, h₂, ⟨⟩, hv, he⟩ := h
  obtain rfl := Except.ok.inj he
  refine ⟨validateDevice_ok_iff.mp hv, ?_, ?_⟩
  · simp [mergeMember_ok h₂, mergeMember_ok h₁]
  · simp [mergeMember_ok h₂, mergeMember_ok h₁]

lemma updateFirst_ok {body : Json} {ds ds' : List Json}
    (h : updateFirst id body ds = .ok (some ds')) : ∃ before d after d',
      ds = before ++ d :: after ∧ ds' = before ++ d' :: after ∧
        (∀ b ∈ before, hasId id b = .ok false) ∧ hasId id d = .ok true ∧ updated body d = .ok d' := by
  induction ds generalizing ds' with
  | nil => simp [updateFirst, pure, Except.pure] at h
  | cons d ds ih =>
    simp only [updateFirst, bind_eq_ok, raising_eq_ok] at h
    obtain ⟨same, hs, h⟩ := h
    cases same with
    | true =>
      simp only [if_true, bind_eq_ok] at h
      obtain ⟨d', hd, he⟩ := h
      obtain rfl := Option.some.inj (Except.ok.inj he)
      exact ⟨[], d, ds, d', rfl, rfl, by simp, hs, hd⟩
    | false =>
      simp only [Bool.false_eq_true, if_false, bind_eq_ok] at h
      obtain ⟨rest, hr, he⟩ := h
      obtain ⟨ds'', rfl, rfl⟩ := Option.map_eq_some_iff.mp (Except.ok.inj he)
      obtain ⟨before, b, after, b', rfl, rfl, hbefore, hb, hu⟩ := ih hr
      exact ⟨d :: before, b, after, b', rfl, rfl, List.forall_mem_cons.mpr ⟨hs, hbefore⟩, hb, hu⟩

lemma removeAll_ok {ds remaining : List Json} {found : Bool}
    (h : removeAll id ds = .ok (found, remaining)) (d : Json) :
    d ∈ remaining ↔ d ∈ ds ∧ hasId id d = .ok false := by
  induction ds generalizing found remaining with
  | nil =>
    obtain ⟨rfl, rfl⟩ := Prod.mk.inj (Except.ok.inj h)
    simp
  | cons b ds ih =>
    simp only [removeAll, bind_eq_ok] at h
    obtain ⟨same, hs, ⟨found', rest⟩, hr, he⟩ := h
    obtain ⟨-, rfl⟩ := Prod.mk.inj (Except.ok.inj he)
    cases same with
    | true =>
      rw [if_pos rfl, ih hr, List.mem_cons]
      refine and_congr_left fun hf => ⟨.inr, ?_⟩
      rintro (rfl | hm)
      · simp [hs] at hf
      · exact hm
    | false =>
      rw [if_neg (by simp), List.mem_cons, List.mem_cons, ih hr]
      constructor
      · rintro (rfl | ⟨hm, hf⟩)
        · exact ⟨.inl rfl, hs⟩
        · exact ⟨.inr hm, hf⟩
      · rintro ⟨rfl | hm, hf⟩
        · exact .inl rfl
        · exact .inr ⟨hm, hf⟩

end Blocks

section Edits

variable {id : String} {d cfg cfg' : Json}

lemma appendDevice_ok {device : Json} (h : appendDevice device cfg = .ok cfg') :
    elements cfg' = elements cfg ++ [device] := by
  simp only [appendDevice, bind_eq_ok, raising_eq_ok] at h
  obtain ⟨exist, -, h⟩ := h
  cases exist with
  | true => cases h
  | false =>
    obtain rfl := Except.ok.inj h
    exact elements_set cfg _

lemma updateDevice_ok {body : Json} (h : updateDevice id body cfg = .ok cfg') :
    ∃ before d after d', elements cfg = before ++ d :: after ∧
      elements cfg' = before ++ d' :: after ∧ (∀ b ∈ before, hasId id b = .ok false) ∧
        hasId id d = .ok true ∧ updated body d = .ok d' := by
  obtain ⟨ds, hu, h⟩ := bind_eq_ok.mp h
  cases ds with
  | none => cases h
  | some ds =>
    obtain rfl := Except.ok.inj h
    rw [elements_set]
    exact updateFirst_ok hu

lemma removeDevice_ok (h : removeDevice id cfg = .ok cfg') :
    d ∈ elements cfg' ↔ d ∈ elements cfg ∧ hasId id d = .ok false := by
  simp only [removeDevice, bind_eq_ok, raising_eq_ok] at h
  obtain ⟨⟨found, remaining⟩, hr, h⟩ := h
  cases found with
  | false => cases h
  | true =>
    obtain rfl := Except.ok.inj h
    rw [elements_set]
    exact removeAll_ok hr d

lemma apply_set {e : Edit} (h : e.apply cfg = .ok cfg') :
    cfg' = cfg.set "devices" (.array (elements cfg')) := by
  have hset : ∃ devices, cfg' = cfg.set "devices" (.array devices) := by
    cases e with
    | append device =>
      simp only [Edit.apply, appendDevice, bind_eq_ok, raising_eq_ok] at h
      obtain ⟨exist, -, h⟩ := h
      cases exist with
      | true => cases h
      | false => exact ⟨_, (Except.ok.inj h).symm⟩
    | update id body =>
      obtain ⟨ds, -, h⟩ := bind_eq_ok.mp h
      cases ds with
      | none => cases h
      | some ds => exact ⟨ds, (Except.ok.inj h).symm⟩
    | remove id =>
      simp only [Edit.apply, removeDevice, bind_eq_ok, raising_eq_ok] at h
      obtain ⟨⟨found, remaining⟩, -, h⟩ := h
      cases found with
      | false => cases h
      | true => exact ⟨remaining, (Except.ok.inj h).symm⟩
  obtain ⟨devices, rfl⟩ := hset
  rw [elements_set]

lemma updated_isBlock {body d' : Json} (hd : hasId id d = .ok true) (h : updated body d = .ok d') :
    IsBlock id d ∧ IsBlock id d' := by
  obtain ⟨⟨id', hv⟩, hid, -⟩ := updated_ok h
  have hb := isBlock_of_hasId hd (hid.symm.trans hv.id_eq)
  exact ⟨hb, hid.trans hb⟩

theorem apply_effect {e : Edit} (h : e.apply cfg = .ok cfg') : e.Effect cfg' := by
  cases e with
  | append device =>
    rw [Edit.Effect, appendDevice_ok h]
    simp
  | update id body =>
    obtain ⟨before, d, after, d', -, he, -, hd, hu⟩ := updateDevice_ok h
    refine ⟨d', by simp [he], (updated_isBlock hd hu).2, ?_⟩
    intro name hn v hv
    rw [(updated_ok hu).2.2 name hn, hv]
    rfl
  | remove id =>
    intro d hd hb
    have hf := ((removeDevice_ok h).mp hd).2
    simp [hasId_of_isBlock hb] at hf

theorem apply_frame {e : Edit} (h : e.apply cfg = .ok cfg') {other : String}
    (ho : e.deviceId ≠ some other) (hb : IsBlock other d) :
    d ∈ elements cfg' ↔ d ∈ elements cfg := by
  cases e with
  | append device =>
    have hne : d ≠ device := by
      rintro rfl
      exact ho (by rw [Edit.deviceId, givenId, hb]; rfl)
    simp [appendDevice_ok h, hne]
  | update id body =>
    obtain ⟨before, b, after, b', he, he', -, hh, hu⟩ := updateDevice_ok h
    obtain ⟨h₁, h₂⟩ := updated_isBlock hh hu
    have hne : ∀ x, IsBlock id x → d ≠ x := by
      rintro x hx rfl
      exact ho (by simpa [Edit.deviceId] using Option.some.inj (hx.symm.trans hb))
    simp [he, he', hne b h₁, hne b' h₂]
  | remove id =>
    have hne : other ≠ id := fun he => ho (congrArg some he.symm)
    rw [removeDevice_ok h, hasId_of_isBlock hb]
    simp [hne]

lemma newDevice_ok {body device : Json} (h : newDevice body = .ok device) :
    givenId device = givenId body := by
  simp only [newDevice, bind_eq_ok] at h
  obtain ⟨v, hv, criteria, -, grab, -, bindings, -, h⟩ := h
  obtain rfl := Except.ok.inj h
  have hf : ((body.field "id").getD .null) = v := by
    obtain ⟨o, ho, hg⟩ := bind_eq_ok.mp hv
    rw [Json.field_of_find ho]
    exact Except.ok.inj hg
  have hid : (Json.ofMembers ([("id", v), ("match", criteria.getD (.object []))] ++
      (grab.map fun g => ("grab", g)).toList ++
        [("bindings", bindings.getD (.object []))])).field "id" = some v := by
    cases grab <;> simp [Json.ofMembers, Json.field_set]
  rw [givenId, givenId, hid, ← hf]
  cases body.field "id" <;> rfl

lemma preparePost_ok {body : Option Json} {e : Edit} (h : preparePost body = .ok e) :
    ∃ json device, body = some json ∧ newDevice json = .ok device ∧
      (∃ id, ValidDevice device id) ∧ e = .append device := by
  cases body with
  | none => cases h
  | some json =>
    simp only [preparePost, bind_eq_ok, raising_eq_ok] at h
    obtain ⟨has, -, h⟩ := h
    cases has with
    | false => cases h
    | true =>
      simp only [Bool.not_true, Bool.false_eq_true, if_false, bind_eq_ok, raising_eq_ok,
        refusing_eq_ok] at h
      obtain ⟨device, hd, ⟨⟩, hv, h⟩ := h
      obtain rfl := Except.ok.inj h
      exact ⟨json, device, rfl, hd, validateDevice_ok_iff.mp hv, rfl⟩

lemma prepare_deviceId {r : Request} {e : Edit} (h : prepare r = .ok e) :
    e.deviceId = r.deviceId := by
  cases r with
  | post body =>
    obtain ⟨json, device, rfl, hd, -, rfl⟩ := preparePost_ok h
    exact newDevice_ok hd
  | put id body =>
    cases body with
    | none => cases h
    | some body =>
      obtain rfl := Except.ok.inj h
      rfl
  | delete id =>
    obtain rfl := Except.ok.inj h
    rfl

lemma isBlock_of_givenId {device : Json} (h : givenId device = some id) : IsBlock id device := by
  obtain ⟨v, hv, hs⟩ := Option.bind_eq_some_iff.mp h
  cases v <;> simp_all [Json.string?, IsBlock]

lemma prepare_ok_deviceId {r : Request} {e : Edit} (h : prepare r = .ok e) :
    ∃ id, e.deviceId = some id := by
  cases r with
  | post body =>
    obtain ⟨json, device, -, -, ⟨id, hid⟩, rfl⟩ := preparePost_ok h
    exact ⟨id, by rw [Edit.deviceId, givenId, hid.id_eq]; rfl⟩
  | put id body =>
    cases body with
    | none => cases h
    | some body =>
      obtain rfl := Except.ok.inj h
      exact ⟨id, rfl⟩
  | delete id =>
    obtain rfl := Except.ok.inj h
    exact ⟨id, rfl⟩

theorem effect_frame {e e' : Edit} (hid : e.deviceId = some id) (ho : e'.deviceId ≠ some id)
    (h : e'.apply cfg = .ok cfg') (he : e.Effect cfg) : e.Effect cfg' := by
  cases e with
  | append device => exact (apply_frame h ho (isBlock_of_givenId hid)).mpr he
  | update id' body =>
    obtain rfl := Option.some.inj hid
    obtain ⟨d, hd, hb, hf⟩ := he
    exact ⟨d, (apply_frame h ho hb).mpr hd, hb, hf⟩
  | remove id' =>
    obtain rfl := Option.some.inj hid
    intro d hd hb
    exact he d ((apply_frame h ho hb).mp hd) hb

end Edits

end PointerForce.Bridge.DeviceEndpoints
