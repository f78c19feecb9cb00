import PointerForce.Daemon.Configuration
import PointerForce.Foundations.FiniteMaps
import PointerForce.Foundations.LastGiven

/-! The binding table of the mapper: device id, then key code, then command. -/

namespace PointerForce.Daemon.Mapper

open Foundations Foundations.FiniteMaps

abbrev Table := Std.ExtTreeMap String Bindings

structure BindingEntry where
  deviceId : String
  keyName : String
  keycode : ℤ
  command : String
  deriving DecidableEq, Repr

def wildcard : String := "*"

variable (K : KeyCodes)

def initDevice (table : Table) (dc : DeviceConfig) : Table :=
  table.insert dc.id (dc.bindings.foldl (fun sub code cmd => sub.insert code cmd) (table.getD dc.id ∅))

-- the old table is cleared first
def init (_table : Table) (config : Config) : Table := config.devices.foldl initDevice ∅

def lookup (table : Table) (deviceId : String) (keycode : ℤ) : Option String :=
  match table[deviceId]?.bind (·[keycode]?) with
  | some cmd => some cmd
  | none => table[wildcard]?.bind (·[keycode]?)

def addBinding (table : Table) (deviceId keyName cmd : String) : Table × Bool :=
  let code := nameToCode K keyName
  if code < 0 then (table, false)
  else (table.insert deviceId ((table.getD deviceId ∅).insert code cmd), true)

def removeBinding (table : Table) (deviceId keyName : String) : Table × Bool :=
  let code := nameToCode K keyName
  if code < 0 then (table, false)
  else match table[deviceId]? with
    | none => (table, false)
    | some sub => (table.insert deviceId (sub.erase code), sub.contains code)

def allBindings (table : Table) : List BindingEntry :=
  table.toList.flatMap fun (deviceId, sub) =>
    sub.toList.map fun (code, cmd) => ⟨deviceId, codeToName K code, code, cmd⟩

lemma lookup_eq (table : Table) (deviceId : String) (code : ℤ) :
    lookup table deviceId code = (flat table deviceId code).or (flat table wildcard code) := by
  rw [lookup, flat, flat]
  cases table[deviceId]?.bind (·[code]?) <;> rfl

lemma flat_initDevice (table : Table) (dc : DeviceConfig) (deviceId : String) (code : ℤ) :
    flat (initDevice table dc) deviceId code =
      (if dc.id = deviceId then dc.bindings[code]? else none).or (flat table deviceId code) := by
  rw [initDevice, flat_insert, getElem?_foldl_insert, ← flat_eq_getD]
  split
  · next h => rw [h]
  · rfl

def lastBinding (devices : List DeviceConfig) (deviceId : String) (code : ℤ) : Option String :=
  lastGiven (devices.map fun dc => if dc.id = deviceId then dc.bindings[code]? else none)

lemma flat_foldl_initDevice (table : Table) (devices : List DeviceConfig) (deviceId : String)
    (code : ℤ) : flat (devices.foldl initDevice table) deviceId code =
      (lastBinding devices deviceId code).or (flat table deviceId code) := by
  induction devices generalizing table with
  | nil => simp [lastBinding]
  | cons dc devices ih =>
    rw [List.foldl_cons, ih, flat_initDevice, ← Option.or_assoc]
    rfl

lemma flat_init (table : Table) (config : Config) (deviceId : String) (code : ℤ) :
    flat (init table config) deviceId code = lastBinding config.devices deviceId code := by
  simp [init, flat_foldl_initDevice]

end PointerForce.Daemon.Mapper
