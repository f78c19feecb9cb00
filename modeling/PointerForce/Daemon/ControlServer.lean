import PointerForce.Daemon.ConfigLoader

/-! One request line of a control client, as `handle_client` processes it. -/

namespace PointerForce.Daemon.ControlServer

open Foundations Foundations.Faults ConfigLoader Mapper

def version : String := "0.2.0"

structure DeviceInfo where
  id : String
  path : String
  hwName : String
  active : Bool
  deriving DecidableEq, Repr

/-- What a request can read and change, the lines sent so far, and whether the connection has
become an event stream. -/
structure Session where
  config : Config := {}
  table : Table := ∅
  devices : List DeviceInfo := []
  running : Bool := true
  files : String → Option Bytes := fun _ => none
  sent : List Json := []
  streaming : Bool := false

abbrev Handler := EStateM LogicError Session

def sendStr (response : Json) : Handler Unit :=
  modify fun s => { s with sent := s.sent ++ [response] }

def okResponse (payload : List (String × Json)) : Json := (Json.ofMembers payload).set "ok" (.bool true)

def errResponse (msg : String) : Json := .ofMembers [("ok", .bool false), ("error", .string msg)]

variable (C : Codec) (K : KeyCodes)

def status : Handler Unit := do
  let s ← get
  sendStr (okResponse [("version", .string version), ("running", .bool s.running),
    ("device_count", .int s.devices.length),
    ("binding_count", .int (allBindings K s.table).length),
    ("config", .string s.config.configPath)])

def DeviceInfo.toJson (di : DeviceInfo) : Json :=
  .ofMembers [("id", .string di.id), ("path", .string di.path), ("name", .string di.hwName),
    ("active", .bool di.active)]

def devices : Handler Unit := do
  let s ← get
  sendStr (okResponse [("devices", .array (s.devices.map DeviceInfo.toJson))])

def entryToJson (b : BindingEntry) : Json :=
  .ofMembers [("device", .string b.deviceId), ("key", .string b.keyName), ("code", .int b.keycode),
    ("command", .string b.command)]

def text (req : Json) (name : String) : Except LogicError String := do
  (← req.get name).asString

def bindings (req : Json) : Handler Unit := do
  let filter ← if ← req.isMember "device" then liftM (text req "device") else pure ""
  let s ← get
  let entries := (allBindings K s.table).filter fun b => filter.isEmpty || b.deviceId == filter
  sendStr (okResponse [("bindings", .array (entries.map entryToJson))])

def hasFields (req : Json) (names : List String) : Except LogicError Bool :=
  names.allM req.isMember

def bind (req : Json) : Handler Unit := do
  if !(← hasFields req ["device", "key", "command"]) then
    sendStr (errResponse "bind requires fields: device, key, command")
  else
    let device ← text req "device"
    let key ← text req "key"
    let command ← text req "command"
    let s ← get
    let (table, ok) := addBinding K s.table device key command
    set { s with table }
    sendStr (if ok then okResponse [] else errResponse "Unknown key name")

def unbind (req : Json) : Handler Unit := do
  if !(← hasFields req ["device", "key"]) then
    sendStr (errResponse "unbind requires fields: device, key")
  else
    let device ← text req "device"
    let key ← text req "key"
    let s ← get
    let (table, ok) := removeBinding K s.table device key
    set { s with table }
    sendStr (if ok then okResponse [] else errResponse "Binding not found")

-- the connection is an event stream from here on
def events : Handler Unit := modify fun s => { s with streaming := true }

def onConfig {α : Type} (x : Loader α) : Handler α := fun s =>
  match x.run s.config with
  | .ok a config => .ok a { s with config }
  | .error e config => .error e { s with config }

lemma onConfig_ok {α : Type} {x : Loader α} {s : Session} {a : α} {config : Config}
    (h : x.run s.config = .ok a config) : (onConfig x).run s = .ok a { s with config } := by
  have hx : onConfig x s = .ok a { s with config } := by simp only [onConfig, h]
  exact hx

lemma onConfig_error {α : Type} {x : Loader α} {s : Session} {e : LogicError} {config : Config}
    (h : x.run s.config = .error e config) : (onConfig x).run s = .error e { s with config } := by
  have hx : onConfig x s = .error e { s with config } := by simp only [onConfig, h]
  exact hx

def reload : Handler Unit := do
  let s ← get
  let path := s.config.configPath
  let ok ← onConfig (load C K path (s.files path))
  if ok then
    modify fun s => { s with table := init s.table s.config }
  sendStr (if ok then okResponse [] else errResponse "Config reload failed – see log")

def command (cmd : String) (req : Json) : Handler Unit :=
  if cmd = "status" then status K
  else if cmd = "devices" then devices
  else if cmd = "bindings" then bindings K req
  else if cmd = "bind" then bind K req
  else if cmd = "unbind" then unbind K req
  else if cmd = "events" then events
  else if cmd = "reload" then reload C K
  else sendStr (errResponse ("Unknown command: " ++ cmd))

def handleLine (line : Bytes) : Handler Unit := do
  if line.isEmpty then return
  match C.reader line with
  | none => sendStr (errResponse "Invalid JSON or missing 'cmd'")
  | some req =>
    if !(← req.isMember "cmd") then sendStr (errResponse "Invalid JSON or missing 'cmd'")
    else command C K (← text req "cmd") req

end PointerForce.Daemon.ControlServer
