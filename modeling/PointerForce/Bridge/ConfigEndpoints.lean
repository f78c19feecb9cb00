import PointerForce.Bridge.CommandEndpoints
import PointerForce.Bridge.ConfigWrite
import PointerForce.Bridge.SocketAgreement

/-! The bridge as a whole: the endpoints that read and edit the configuration file, those that pass a
request on to the daemon, and the daemon, which reads the file when it reloads. Requests come one after
another; `GET /api/events` is not among them. -/

namespace PointerForce.Bridge.ConfigEndpoints

open Foundations Foundations.Faults Foundations.FiniteMaps Foundations.Machines Daemon
  Daemon.ConfigLoader Daemon.ControlServer Daemon.ClientSafety Daemon.ControlSocket Daemon.Mapper
  Client.OneShot ConfigStore EditEffects CommandEndpoints
open ConfigWrite (WriteResult leftOver)

/-- Where the paths lead that the two processes open, each from its own working directory, and the
canonical form that the bridge makes of a path. -/
structure Places where
  bridge : Bytes → String
  daemon : Bytes → String
  canonical : String → Option String

structure Backend where
  session : Session
  listening : String

structure World where
  disk : String → Option Bytes
  daemon : Option Backend
  said : List Json := []
  saves : List Json := []

inductive Request where
  | command (request : CommandEndpoints.Request)
  | getConfig
  | putConfig (body : Option Json)
  | device (request : DeviceEndpoints.Request)

/-- A request, how its bytes come out of the daemon's reads, the reason that a failed `connect` gives,
and how a write of the file ends. -/
structure Call where
  request : Request
  split : Pieces := .whole
  reason : String := "No such file or directory"
  write : WriteResult := .replaced 0

abbrev Serving := StateM World

variable (C : Codec) (K : KeyCodes) (truncate : String → Option ℤ) (P : Places)

def World.file (w : World) : Option Bytes := w.disk (P.bridge (cStr configPath))

def World.socketPath (w : World) : String :=
  SocketAgreement.resolveSocketPath C configPath (w.file P)

def World.served (w : World) (d : Backend) : Session :=
  { d.session with files := fun path => w.disk (P.daemon (cStr path)) }

def World.reaches (w : World) (d : Backend) : Bool :=
  P.bridge (sunPath (w.socketPath C P)) == d.listening

def exchange (call : Call) (payload : Bytes) : Serving Transport := fun w =>
  match w.daemon with
  | none => (.refused call.reason, w)
  | some d =>
    if w.reaches C P d then
      match (daemon C K call.split payload).run (w.served P d) with
      | .ok transport s =>
        (transport, { w with daemon := some { d with session := s }, said := w.said ++ s.sent })
      -- the daemon ends
      | .error _ s => (.stream (s.sent.flatMap C.fastWriter),
          { w with daemon := none, said := w.said ++ s.sent })
    else (.refused call.reason, w)

def reportedPath : Except Bytes Json → Except LogicError String
  | .error _ => return ""
  | .ok response => do
    if !(← getBool response "ok") then return ""
    else getString response "config"

def daemonReportedPath (call : Call) : Serving (Except LogicError String) := do
  let path := (← get).socketPath C P
  return reportedPath (result C path (← exchange C K P call (C.fastWriter (plainRequest "status"))))

def samePath (a b : String) : Bool :=
  a == b || match P.canonical a, P.canonical b with
    | some canonA, some canonB => canonA == canonB
    | _, _ => false

def daemonPathWarning (daemonPath : String) : String :=
  if daemonPath = "" then ""
  else if samePath P daemonPath configPath then ""
  else "the running daemon loaded its config from '" ++ daemonPath ++
    "', but this editor reads/writes '" ++ configPath ++
    "'. Changes made here won't take effect on reload until the daemon is " ++
    "started with '-c " ++ configPath ++ "' (or an absolute path to the same file)."

def withWarning (j : Json) (reported : Except LogicError String) : Response :=
  match reported with
  | .error e => .raised e
  | .ok path =>
    let warning := daemonPathWarning P path
    .json (if warning = "" then j else j.set "warning" (.string warning))

def attachConfigWarning (call : Call) (j : Json) : Serving Response := do
  return withWarning P j (← daemonReportedPath C K P call)

def answered : DeviceEndpoints.Failure → Response
  | .answered status error => .failed status (utf8 error)
  | .raised e => .raised e

def World.wrote (w : World) (cfg : Json) (lost : ℕ) : World :=
  { w with
    disk := Function.update w.disk (P.bridge (cStr configPath))
      (some (leftOver (C.streamWriter cfg) lost))
    saves := w.saves ++ [cfg] }

-- the end of every handler that has a valid document to write
def save (call : Call) (cfg reply : Json) : Serving Response := do
  match call.write with
  | .failed error => return .failed 500 (utf8 ("failed to write config: " ++ error))
  | .replaced lost =>
    modify fun w => w.wrote C P cfg lost
    attachConfigWarning C K P call reply

def getConfig (call : Call) : Serving Response := do
  match ConfigStore.read C configPath ((← get).file P) with
  | .error error => return .failed 500 (utf8 ("failed to read config: " ++ error))
  | .ok cfg => attachConfigWarning C K P call (.ofMembers [("path", .string configPath), ("config", cfg)])

-- the document itself, or what `GET /api/config` returns
def enclosed (json : Json) : Except LogicError Json := do
  if ← json.isMember "config" then json.get "config" else return json

def putConfig (call : Call) : Option Json → Serving Response
  | none => return .failed 400 (utf8 "request body must be valid JSON")
  | some json =>
    match enclosed json with
    | .error e => return .raised e
    | .ok cfg =>
      match validate cfg with
      | .error error => return .failed 400 (utf8 ("invalid config: " ++ error))
      | .ok () => save C K P call cfg (.ofMembers [("ok", .bool true), ("path", .string configPath)])

def deviceReply (request : DeviceEndpoints.Request) : Json :=
  match DeviceEndpoints.prepare request with
  | .ok (.append device) => .ofMembers [("ok", .bool true), ("device", device)]
  | _ => .ofMembers [("ok", .bool true)]

def editDevice (call : Call) (request : DeviceEndpoints.Request) : Serving Response := do
  match edited C request ((← get).file P) with
  | .error failure => return answered failure
  | .ok cfg => save C K P call cfg (deviceReply request)

def handle (call : Call) : Serving Response :=
  match call.request with
  | .command request => do
    let path := (← get).socketPath C P
    CommandEndpoints.handle C truncate path (exchange C K P call) request
  | .getConfig => getConfig C K P call
  | .putConfig body => putConfig C K P call body
  | .device request => editDevice C K P call request

def step (w : World) (call : Call) : World × Response := ((handle C K truncate P call).run w).swap

/-- What the bridge is for: one document that is edited, and one binding map that a reload takes from
the document and the other requests change. -/
structure Editor where
  saved : Option Json
  running : Option BindingMap

inductive EditorOp where
  | read
  -- the document may not reach the file as a whole
  | replace (cfg : Json) (whole : Bool)
  | edit (request : DeviceEndpoints.Request) (whole : Bool)
  | mapper (op : Op)
  | reload
  | refuse

structure Seen where
  ok : Bool
  config : Option Json := none
  warned : Bool := false

def Seen.refused : Seen where
  ok := false

/-- What stays as it is: the path the daemon has been started with, the place of its socket, and the
document in the daemon's file, in case that is not the file of the editor. -/
structure Setting where
  daemonPath : String
  listening : String
  ownFile : Option Json

def socketOf (saved : Option Json) : String :=
  (((saved.bind fun cfg => cfg.field "control_socket").bind Json.string?).filter (· ≠ "")).getD
    SocketAgreement.kDefaultSocketPath

def Setting.shared (S : Setting) : Bool := P.daemon (cStr S.daemonPath) == P.bridge (cStr configPath)

def Setting.mismatched (S : Setting) : Bool :=
  S.daemonPath != "" && !samePath P S.daemonPath configPath

namespace Editor

def reached (S : Setting) (e : Editor) : Option BindingMap :=
  if P.bridge (sunPath (socketOf e.saved)) = S.listening then e.running else none

def warned (S : Setting) (e : Editor) : Bool := S.mismatched P && (e.reached P S).isSome

def editDocument (request : DeviceEndpoints.Request) (saved : Option Json) : Option Json := do
  let edit ← (DeviceEndpoints.prepare request).toOption
  let cfg ← saved.filter Json.isObject
  let cfg ← (edit.apply cfg).toOption
  (validate cfg).toOption.map fun _ => cfg

def save (S : Setting) (e : Editor) (whole : Bool) : Option Json → Editor × Seen
  | some cfg =>
    let e := { e with saved := if whole then some cfg else none }
    (e, { ok := true, warned := e.warned P S })
  | none => (e, .refused)

def reload (S : Setting) (e : Editor) : Editor × Seen :=
  match if S.shared P then e.saved else S.ownFile with
  | none => (e, .refused)
  | some root =>
    match devicesOf root with
    | some devs =>
      if ∀ dev ∈ devs, Readable K dev then
        ({ e with running := some (lastBinding (keptDevices K devs)) }, { ok := true })
      -- the daemon ends
      else ({ e with running := none }, .refused)
    | none => if root.Indexable then (e, .refused) else ({ e with running := none }, .refused)

def step (S : Setting) (e : Editor) : EditorOp → Editor × Seen
  | .read => (e, match e.saved.filter Json.isObject with
      | some cfg => { ok := true, config := some cfg, warned := e.warned P S }
      | none => .refused)
  | .replace cfg whole => e.save P S whole ((validate cfg).toOption.map fun _ => cfg)
  | .edit request whole => e.save P S whole (editDocument request e.saved)
  | .mapper op =>
    match e.reached P S with
    | some M =>
      let (M, ok) := BindingMap.call K M op
      ({ e with running := some M }, { ok := ok.getD false })
    | none => (e, .refused)
  | .reload =>
    match e.reached P S with
    | some _ => e.reload K P S
    | none => (e, .refused)
  | .refuse => (e, .refused)

end Editor

def mapperView (op : Option Op) : EditorOp := op.elim .refuse .mapper

def writeView (call : Call) (op : Bool → EditorOp) : EditorOp :=
  match call.write with
  | .failed _ => .refuse
  | .replaced lost => op (lost = 0)

def putView (body : Option Json) (whole : Bool) : EditorOp :=
  (body.bind fun json => (enclosed json).toOption).elim .refuse (.replace · whole)

def view (call : Call) : Option EditorOp :=
  match call.request with
  | .command (.bind body) => some (mapperView (mapperOp (.bind body)))
  | .command (.unbind body) => some (mapperView (mapperOp (.unbind body)))
  | .command .reload => some .reload
  -- what these list is not part of the editor
  | .command _ => none
  | .getConfig => some .read
  | .putConfig body => some (writeView call (putView body))
  | .device request => some (writeView call (.edit request))

def seen : Response → Seen
  | .json body =>
    { ok := true, config := body.field "config", warned := (body.field "warning").isSome }
  | .failed _ _ | .raised _ => .refused

def World.editor (w : World) : Editor where
  saved := (w.file P).bind C.charReader
  running := w.daemon.map fun d => flat d.session.table

def asked (call : Call) : Option Json :=
  match call.request with
  | .command request => requestOf request
  | _ => some (plainRequest "status")

/-- The daemon has the path and the socket of the setting, its own file is as the setting has it, and
both parsers read the same document in the file of the editor. -/
structure Fits (S : Setting) (w : World) : Prop where
  path : ∀ d, w.daemon = some d → d.session.config.configPath = S.daemonPath
  listening : ∀ d, w.daemon = some d → d.listening = S.listening
  ownFile : S.shared P = false → (w.disk (P.daemon (cStr S.daemonPath))).bind C.reader = S.ownFile
  parsers : (w.file P).bind C.reader = (w.file P).bind C.charReader

structure Restored (parse : Bytes → Option Json) (cfg : Json) : Prop where
  whole : parse (C.streamWriter cfg) = some cfg
  cut : ∀ lost, lost ≠ 0 → parse (leftOver (C.streamWriter cfg) lost) = none

/-- What the daemon has sent is read back as it was written, and so are the documents, of which no
text without its end is read. -/
structure Faithful (w : World) : Prop where
  said : ∀ v ∈ w.said, Written C v
  saves : ∀ cfg ∈ w.saves, Restored C C.reader cfg ∧ Restored C C.charReader cfg

end PointerForce.Bridge.ConfigEndpoints
