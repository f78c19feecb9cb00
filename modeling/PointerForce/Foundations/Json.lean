import PointerForce.Foundations.AssociationLists

/-! JSON values with the member access and conversions of jsoncpp. Access to a member of a value
that is neither null nor an object, and conversion of an array or an object to text, raise. -/

namespace PointerForce.Foundations

abbrev Bytes := List UInt8

def utf8 (s : String) : Bytes := s.toUTF8.data.toList

def newline : UInt8 := 10

def isNewline (b : UInt8) : Bool := b == newline

inductive LogicError where
  | notAnObject
  | notConvertible
  deriving DecidableEq, Repr

/-- A real number is carried by the text that jsoncpp prints for it. -/
inductive Json where
  | null
  | bool (value : Bool)
  | int (value : ℤ)
  | real (text : String)
  | string (value : String)
  | array (elements : List Json)
  | object (members : List (String × Json))
  deriving Repr

structure Codec where
  reader : Bytes → Option Json
  charReader : Bytes → Option Json
  parseErrors : Bytes → String
  fastWriter : Json → Bytes
  streamWriter : Json → Bytes

namespace Json

mutual

def same : Json → Json → Bool
  | .null, .null => true
  | .bool b, .bool c => b == c
  | .int i, .int j => i == j
  | .real t, .real u => t == u
  | .string t, .string u => t == u
  | .array vs, .array ws => sameElements vs ws
  | .object ms, .object ns => sameMembers ms ns
  | _, _ => false

def sameElements : List Json → List Json → Bool
  | [], [] => true
  | v :: vs, w :: ws => same v w && sameElements vs ws
  | _, _ => false

def sameMembers : List (String × Json) → List (String × Json) → Bool
  | [], [] => true
  | (m, v) :: ms, (n, w) :: ns => m == n && same v w && sameMembers ms ns
  | _, _ => false

end

def find : Json → String → Except LogicError (Option Json)
  | .null, _ => .ok none
  | .object members, name => .ok (members.lookup name)
  | _, _ => .error .notAnObject

def isMember (v : Json) (name : String) : Except LogicError Bool :=
  return (← v.find name).isSome

def get (v : Json) (name : String) : Except LogicError Json :=
  return (← v.find name).getD .null

def isObject : Json → Bool
  | .object _ => true
  | _ => false

def bool? : Json → Option Bool
  | .bool b => some b
  | _ => none

def string? : Json → Option String
  | .string s => some s
  | _ => none

def array? : Json → Option (List Json)
  | .array vs => some vs
  | _ => none

def object? : Json → Option (List (String × Json))
  | .object ms => some ms
  | _ => none

def text? : Json → Option String
  | .null => some ""
  | .bool b => some (if b then "true" else "false")
  | .int i => some (toString i)
  | .real t => some t
  | .string s => some s
  | .array _ | .object _ => none

def asString (v : Json) : Except LogicError String :=
  match v.text? with
  | some s => .ok s
  | none => .error .notConvertible

def asBool : Json → Except LogicError Bool
  | .null => .ok false
  | .bool b => .ok b
  | .int i => .ok (i != 0)
  | .real t => .ok (t != "0.0" && t != "-0.0")
  | .string _ | .array _ | .object _ => .error .notConvertible

def asInt (truncate : String → Option ℤ) (v : Json) : Except LogicError ℤ :=
  let int? : Option ℤ := match v with
    | .null => some 0
    | .bool b => some (if b then 1 else 0)
    | .int i => some i
    | .real t => truncate t
    | .string _ | .array _ | .object _ => none
  match int? with
  | some i => if -2 ^ 31 ≤ i ∧ i < 2 ^ 31 then .ok i else .error .notConvertible
  | none => .error .notConvertible

-- what a loop over a value goes through
def items : Json → List Json
  | .array vs => vs
  | .object ms => ms.map Prod.snd
  | _ => []

-- `empty()`
def isEmpty : Json → Bool
  | .null | .array [] | .object [] => true
  | _ => false

-- `v.isMember(name) && v[name].isT()`, and `v[name].asT()` where that holds
def typedMember {α : Type} (project : Json → Option α) (v : Json) (name : String) :
    Except LogicError (Option α) :=
  return (← v.find name).bind project

abbrev boolMember := typedMember bool?
abbrev stringMember := typedMember string?
abbrev arrayMember := typedMember array?
abbrev objectMember := typedMember object?

def field (v : Json) (name : String) : Option Json := v.object?.bind (List.lookup name)

/-- Assignment through `operator[]` to an object, whose members stay in the order of their names.
A null value becomes an object first. -/
def set (v : Json) (name : String) (value : Json) : Json :=
  .object (AssociationLists.assign name value (v.object?.getD []))

def ofMembers (members : List (String × Json)) : Json :=
  members.foldl (fun v m => v.set m.1 m.2) (.object [])

def Indexable : Json → Prop
  | .null | .object _ => True
  | _ => False

instance : DecidablePred Indexable := fun v => by
  cases v <;> unfold Indexable <;> infer_instance

mutual

lemma eq_of_same {v w : Json} (h : same v w = true) : v = w := by
  cases v with
  | array vs =>
    cases w with
    | array ws => exact congrArg array (eq_of_sameElements h)
    | _ => cases h
  | object ms =>
    cases w with
    | object ns => exact congrArg object (eq_of_sameMembers h)
    | _ => cases h
  | _ => cases w <;> simp_all [same]

lemma eq_of_sameElements {vs ws : List Json} (h : sameElements vs ws = true) : vs = ws := by
  cases vs with
  | nil => cases ws with
    | nil => rfl
    | cons w ws => cases h
  | cons v vs => cases ws with
    | nil => cases h
    | cons w ws =>
      rw [sameElements, Bool.and_eq_true] at h
      rw [eq_of_same h.1, eq_of_sameElements h.2]

lemma eq_of_sameMembers {ms ns : List (String × Json)} (h : sameMembers ms ns = true) : ms = ns := by
  cases ms with
  | nil => cases ns with
    | nil => rfl
    | cons n ns => cases h
  | cons m ms => cases ns with
    | nil => cases h
    | cons n ns =>
      obtain ⟨m, v⟩ := m
      obtain ⟨n, w⟩ := n
      simp only [sameMembers, Bool.and_eq_true, beq_iff_eq] at h
      rw [h.1.1, eq_of_same h.1.2, eq_of_sameMembers h.2]

end
mutual

lemma same_self (v : Json) : same v v = true := by
  cases v with
  | array vs => exact sameElements_self vs
  | object ms => exact sameMembers_self ms
  | _ => simp [same]

lemma sameElements_self (vs : List Json) : sameElements vs vs = true := by
  cases vs with
  | nil => rfl
  | cons v vs => rw [sameElements, same_self v, sameElements_self vs, Bool.and_self]

lemma sameMembers_self (ms : List (String × Json)) : sameMembers ms ms = true := by
  cases ms with
  | nil => rfl
  | cons m ms =>
    obtain ⟨m, v⟩ := m
    rw [sameMembers, same_self v, sameMembers_self ms, beq_self_eq_true, Bool.and_self, Bool.and_self]

end

instance : DecidableEq Json := fun v w =>
  decidable_of_iff (same v w = true) ⟨eq_of_same, fun h => h ▸ same_self v⟩

@[simp] lemma field_object (members : List (String × Json)) (name : String) :
    (object members).field name = members.lookup name := rfl

lemma find_indexable {v : Json} (h : v.Indexable) (name : String) : v.find name = .ok (v.field name) := by
  cases v <;> simp_all [Indexable, find, field, object?]

lemma field_of_find {v : Json} {name : String} {o : Option Json} (h : v.find name = .ok o) :
    v.field name = o := by
  cases v <;> simp_all [find, field, object?]

lemma find_not_indexable {v : Json} (h : ¬ v.Indexable) (name : String) :
    v.find name = .error .notAnObject := by
  cases v <;> simp_all [Indexable, find]

lemma typedMember_indexable {α : Type} (project : Json → Option α) {v : Json} (h : v.Indexable)
    (name : String) : typedMember project v name = .ok ((v.field name).bind project) := by
  simp only [typedMember, find_indexable h]
  rfl

lemma typedMember_not_indexable {α : Type} (project : Json → Option α) {v : Json}
    (h : ¬ v.Indexable) (name : String) : typedMember project v name = .error .notAnObject := by
  simp only [typedMember, find_not_indexable h]
  rfl

lemma isMember_indexable {v : Json} (h : v.Indexable) (name : String) :
    v.isMember name = .ok (v.field name).isSome := by
  simp only [isMember, find_indexable h]
  rfl

lemma get_indexable {v : Json} (h : v.Indexable) (name : String) :
    v.get name = .ok ((v.field name).getD .null) := by
  simp only [get, find_indexable h]
  rfl

@[simp] lemma indexable_object (members : List (String × Json)) : (object members).Indexable := trivial

lemma field_set (v : Json) (name : String) (value : Json) (other : String) :
    (v.set name value).field other = if other = name then some value else v.field other := by
  rw [set, field_object, AssociationLists.lookup_assign]
  cases v <;> rfl

lemma asString_some {v : Json} {s : String} (h : v.text? = some s) : v.asString = .ok s := by
  simp only [asString, h]

lemma asInt_natCast (truncate : String → Option ℤ) {n : ℕ} (h : n < 2 ^ 31) :
    (int n).asInt truncate = .ok (n : ℤ) := by
  have hrange : -2 ^ 31 ≤ (n : ℤ) ∧ (n : ℤ) < 2 ^ 31 := by omega
  rw [asInt]
  exact if_pos hrange

lemma asString_none {v : Json} (h : v.text? = none) : v.asString = .error .notConvertible := by
  simp only [asString, h]

end Json

def Codec.ofTable (table : List (Bytes × Json)) : Codec where
  reader text := table.lookup text
  charReader text := table.lookup text
  parseErrors _ := ""
  fastWriter v := ((table.find? fun entry => entry.2.same v).map Prod.fst).getD []
  streamWriter v := ((table.find? fun entry => entry.2.same v).map Prod.fst).getD []

end PointerForce.Foundations
