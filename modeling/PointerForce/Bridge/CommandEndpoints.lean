import PointerForce.Client.OneShot
import PointerForce.Daemon.ListedBindings

/-! The endpoints of the bridge that pass a request on to the daemon. -/

namespace PointerForce.Bridge.CommandEndpoints

open Foundations Foundations.Faults Foundations.FiniteMaps Foundations.Machines Daemon
  Daemon.ControlServer Daemon.ClientSafety Daemon.Mapper Client.OneShot

inductive Response where
  | json (body : Json)
  | failed (status : ℕ) (error : Bytes)
  | raised (e : LogicError)

inductive Request where
  | status
  | devices
  | bindings
  | bind (body : Option Json)
  | unbind (body : Option Json)
  | reload

variable (C : Codec) (truncate : String → Option ℤ) (socketPath : String)

-- `ControlClient::send`, from the response line on
def response (respLine : Bytes) : Except Bytes Json :=
  if respLine = [] then .error (utf8 "empty or timed-out response from control socket")
  else match C.reader respLine with
    | none => .error (utf8 "invalid JSON in control socket response: " ++ respLine)
    | some response => .ok response

def cannotConnect (reason : String) : Bytes :=
  utf8 ("cannot connect to '" ++ socketPath ++ "': " ++ reason ++
    " (is the pointerforce daemon running, and is control_socket in config set to this path?)")

def result : Transport → Except Bytes Json
  | .noSocket reason | .refused reason => .error (cannotConnect socketPath reason)
  | .writeFails reason => .error (utf8 ("write to control socket failed: " ++ reason))
  | .stream bytes => response C (readLine bytes).1

def getD (v : Json) (name : String) (default : Json) : Except LogicError Json :=
  return (← v.find name).getD default

def getString (v : Json) (name : String) : Except LogicError String := do
  (← getD v name (.string "")).asString

def getBool (v : Json) (name : String) : Except LogicError Bool := do
  (← getD v name (.bool false)).asBool

def getCount (v : Json) (name : String) : Except LogicError String := do
  return toString (← (← getD v name (.int 0)).asInt truncate)

-- `runCommand`, from what `send` returns on
def outcome (r : Except Bytes Json) : Except LogicError (Except Bytes Json) :=
  match r with
  | .error error => return .error error
  | .ok response => do
    if !(← getBool response "ok") then
      return .error (utf8 (← (← getD response "error" (.string "unknown error")).asString))
    else return .ok response

def respond (context : String) (render : Json → Except LogicError Json) (r : Except Bytes Json) :
    Response :=
  match outcome r with
  | .error e => .raised e
  | .ok (.error error) => .failed 500 (utf8 context ++ error)
  | .ok (.ok response) =>
    match render response with
    | .ok body => .json body
    | .error e => .raised e

def yesNo (b : Bool) : String := if b then "yes" else "no"

def renderStatus (r : Json) : Except LogicError Json :=
  return .ofMembers [("version", .string (← getString r "version")),
    ("running", .string (yesNo (← getBool r "running"))),
    ("devices", .string (← getCount truncate r "device_count")),
    ("bindings", .string (← getCount truncate r "binding_count")),
    ("config", .string (← getString r "config"))]

def renderDevice (d : Json) : Except LogicError Json :=
  return .ofMembers [("id", .string (← getString d "id")), ("path", .string (← getString d "path")),
    ("name", .string (← getString d "name")), ("active", .string (yesNo (← getBool d "active")))]

def renderDevices (r : Json) : Except LogicError Json :=
  return .array (← (← r.get "devices").items.mapM renderDevice)

def renderBinding (b : Json) : Except LogicError Json :=
  return .ofMembers [("device", .string (← getString b "device")), ("key", .string (← getString b "key")),
    ("command", .string (← getString b "command"))]

def renderBindings (r : Json) : Except LogicError Json :=
  return .array (← (← r.get "bindings").items.mapM renderBinding)

def done (output : String) : Json := .ofMembers [("ok", .bool true), ("output", .string output)]

def raising {α : Type} (x : Except LogicError α) : Except Response α := x.mapError .raised

def refuse {α : Type} (error : String) : Except Response α := .error (.failed 400 (utf8 error))

def checkBind (body : Option Json) : Except Response (String × String × String) := do
  let some json := body | refuse "request body must include device, key, command"
  if !(← raising (hasFields json ["device", "key", "command"])) then
    refuse "request body must include device, key, command"
  let device ← raising (text json "device")
  let key ← raising (text json "key")
  let command ← raising (text json "command")
  if device = "" ∨ key = "" ∨ command = "" then
    refuse "device, key, and command must be non-empty"
  return (device, key, command)

def checkUnbind (body : Option Json) : Except Response (String × String) := do
  let some json := body | refuse "request body must include device, key"
  if !(← raising (hasFields json ["device", "key"])) then
    refuse "request body must include device, key"
  let device ← raising (text json "device")
  let key ← raising (text json "key")
  if device = "" ∨ key = "" then refuse "device and key must be non-empty"
  return (device, key)

def ask {m : Type → Type} [Monad m] (exchange : Bytes → m Transport) (context : String)
    (req : Json) (render : Json → Except LogicError Json) : m Response := do
  return respond context render (result C socketPath (← exchange (C.fastWriter req)))

def handle {m : Type → Type} [Monad m] (exchange : Bytes → m Transport) (request : Request) :
    m Response :=
  let ask := ask C socketPath exchange
  match request with
  | .status => ask "status failed: " (plainRequest "status") (renderStatus truncate)
  | .devices => ask "devices failed: " (plainRequest "devices") renderDevices
  | .bindings => ask "bindings failed: " (plainRequest "bindings") renderBindings
  | .bind body =>
    match checkBind body with
    | .error refusal => return refusal
    | .ok (device, key, cmdline) => ask "bind failed: " (bindRequest device key cmdline)
        fun _ => .ok (done ("bound " ++ device ++ " " ++ key))
  | .unbind body =>
    match checkUnbind body with
    | .error refusal => return refusal
    | .ok (device, key) => ask "unbind failed: " (unbindRequest device key)
        fun _ => .ok (done ("unbound " ++ device ++ " " ++ key))
  | .reload => ask "reload failed: " (plainRequest "reload")
      fun _ => .ok (done "config reloaded")

def row (b : BindingEntry) : Json := .ofMembers [("device", .string b.deviceId),
  ("key", .string b.keyName), ("command", .string b.command)]

def deviceRow (di : DeviceInfo) : Json := .ofMembers [("id", .string di.id), ("path", .string di.path),
  ("name", .string di.hwName), ("active", .string (yesNo di.active))]

def statusDocument (K : KeyCodes) (s : Session) : Json :=
  .ofMembers [("version", .string version), ("running", .string (yesNo s.running)),
    ("devices", .string (toString (s.devices.length : ℤ))),
    ("bindings", .string (toString ((allBindings K s.table).length : ℤ))),
    ("config", .string s.config.configPath)]

def answer (K : KeyCodes) (s : Session) : Request → Session × Response
  | .status => (s, .json (statusDocument K s))
  | .devices => (s, .json (.array (s.devices.map deviceRow)))
  | .bindings => (s, .json (.array ((allBindings K s.table).map row)))
  | .bind body =>
    match checkBind body with
    | .error refusal => (s, refusal)
    | .ok (device, key, cmdline) =>
      let (table, ok) := addBinding K s.table device key cmdline
      ({ s with table }, if ok then .json (done ("bound " ++ device ++ " " ++ key))
        else .failed 500 (utf8 "bind failed: " ++ utf8 "Unknown key name"))
  | .unbind body =>
    match checkUnbind body with
    | .error refusal => (s, refusal)
    | .ok (device, key) =>
      let (table, ok) := removeBinding K s.table device key
      ({ s with table }, if ok then .json (done ("unbound " ++ device ++ " " ++ key))
        else .failed 500 (utf8 "unbind failed: " ++ utf8 "Binding not found"))
  | .reload =>
    match (ConfigLoader.load C K s.config.configPath (s.files s.config.configPath)).run s.config with
    | .ok true config => ({ s with config, table := Mapper.init s.table config },
        .json (done "config reloaded"))
    | .ok false config =>
      ({ s with config },
        .failed 500 (utf8 "reload failed: " ++ utf8 "Config reload failed – see log"))
    -- the daemon ends
    | .error _ config => ({ s with config }, .failed 500
        (utf8 "reload failed: " ++ utf8 "empty or timed-out response from control socket"))

def requestOf : Request → Option Json
  | .status => some (plainRequest "status")
  | .devices => some (plainRequest "devices")
  | .bindings => some (plainRequest "bindings")
  | .bind body => (checkBind body).toOption.map fun (device, key, cmdline) =>
      bindRequest device key cmdline
  | .unbind body => (checkUnbind body).toOption.map fun (device, key) => unbindRequest device key
  | .reload => some (plainRequest "reload")

section Responses

variable {truncate socketPath} {K : KeyCodes} {s : Session} {context : String}
  {render : Json → Except LogicError Json}

lemma getString_of_field {v : Json} {name value : String} (hi : v.Indexable)
    (h : v.field name = some (.string value)) : getString v name = .ok value := by
  simp only [getString, getD, Json.find_indexable hi, h, ok_bind]
  rfl

lemma getBool_of_field {v : Json} {name : String} {b : Bool} (hi : v.Indexable)
    (h : v.field name = some (.bool b)) : getBool v name = .ok b := by
  simp only [getBool, getD, Json.find_indexable hi, h, ok_bind]
  rfl

lemma getCount_of_field {v : Json} {name : String} {n : ℕ} (hi : v.Indexable)
    (h : v.field name = some (.int n)) (hn : n < 2 ^ 31) :
    getCount truncate v name = .ok (toString (n : ℤ)) := by
  have hget : getD v name (.int 0) = .ok (.int n) := by
    rw [getD, Json.find_indexable hi, h]
    rfl
  rw [getCount, hget, ok_bind, Json.asInt_natCast truncate hn]
  rfl

lemma respond_ok (payload : List (String × Json)) {body : Json}
    (h : render (okResponse payload) = .ok body) :
    respond context render (.ok (okResponse payload)) = .json body := by
  have hi : (okResponse payload).Indexable := trivial
  have hok : getBool (okResponse payload) "ok" = .ok true :=
    getBool_of_field hi (by rw [okResponse, Json.field_set, if_pos rfl])
  have houtcome : outcome (.ok (okResponse payload)) = .ok (.ok (okResponse payload)) := by
    simp only [outcome, hok, ok_bind]
    rfl
  simp only [respond, houtcome, h]

lemma respond_err (msg : String) :
    respond context render (.ok (errResponse msg)) = .failed 500 (utf8 context ++ utf8 msg) := by
  have hi : (errResponse msg).Indexable := indexable_ofMembers _
  have hok : getBool (errResponse msg) "ok" = .ok false :=
    getBool_of_field hi (by simp [errResponse, Json.ofMembers, Json.field_set])
  have herror : getD (errResponse msg) "error" (.string "unknown error") = .ok (.string msg) := by
    rw [getD, Json.find_indexable hi]
    simp [errResponse, Json.ofMembers, Json.field_set]
  have houtcome : outcome (.ok (errResponse msg)) = .ok (.error (utf8 msg)) := by
    simp only [outcome, hok, herror, ok_bind]
    rfl
  simp only [respond, houtcome]

lemma respond_ite (ok : Bool) (msg output : String) :
    respond context (fun _ => .ok (done output)) (.ok (if ok then okResponse [] else errResponse msg)) =
      if ok then .json (done output) else .failed 500 (utf8 context ++ utf8 msg) := by
  cases ok with
  | false => exact respond_err msg
  | true => exact respond_ok [] rfl

lemma renderStatus_report (hd : s.devices.length < 2 ^ 31) (hb : (allBindings K s.table).length < 2 ^ 31) :
    renderStatus truncate (statusReport K s) = .ok (statusDocument K s) := by
  have hi : (statusReport K s).Indexable := trivial
  have hversion : getString (statusReport K s) "version" = .ok version :=
    getString_of_field hi (by simp [statusReport, okResponse, Json.ofMembers, Json.field_set])
  have hrunning : getBool (statusReport K s) "running" = .ok s.running :=
    getBool_of_field hi (by simp [statusReport, okResponse, Json.ofMembers, Json.field_set])
  have hdevices : getCount truncate (statusReport K s) "device_count" =
      .ok (toString (s.devices.length : ℤ)) :=
    getCount_of_field hi (by simp [statusReport, okResponse, Json.ofMembers, Json.field_set]) hd
  have hbindings : getCount truncate (statusReport K s) "binding_count" =
      .ok (toString ((allBindings K s.table).length : ℤ)) :=
    getCount_of_field hi (by simp [statusReport, okResponse, Json.ofMembers, Json.field_set]) hb
  have hconfig : getString (statusReport K s) "config" = .ok s.config.configPath :=
    getString_of_field hi (by simp [statusReport, okResponse, Json.ofMembers, Json.field_set])
  rw [renderStatus, hversion, hrunning, hdevices, hbindings, hconfig]
  rfl

lemma renderDevice_toJson (di : DeviceInfo) : renderDevice di.toJson = .ok (deviceRow di) := by
  have hi : di.toJson.Indexable := indexable_ofMembers _
  have hid : getString di.toJson "id" = .ok di.id :=
    getString_of_field hi (by simp [DeviceInfo.toJson, Json.ofMembers, Json.field_set])
  have hpath : getString di.toJson "path" = .ok di.path :=
    getString_of_field hi (by simp [DeviceInfo.toJson, Json.ofMembers, Json.field_set])
  have hname : getString di.toJson "name" = .ok di.hwName :=
    getString_of_field hi (by simp [DeviceInfo.toJson, Json.ofMembers, Json.field_set])
  have hactive : getBool di.toJson "active" = .ok di.active :=
    getBool_of_field hi (by simp [DeviceInfo.toJson, Json.ofMembers, Json.field_set])
  rw [renderDevice, hid, hpath, hname, hactive]
  rfl

lemma renderDevices_list : renderDevices (deviceList s) = .ok (.array (s.devices.map deviceRow)) := by
  have hi : (deviceList s).Indexable := trivial
  have hdevices : (deviceList s).get "devices" = .ok (.array (s.devices.map DeviceInfo.toJson)) := by
    rw [Json.get_indexable hi]
    simp [deviceList, okResponse, Json.ofMembers, Json.field_set]
  rw [renderDevices, hdevices, ok_bind, Json.items, mapM_map_ok renderDevice_toJson]
  rfl

lemma renderBinding_toJson (b : BindingEntry) : renderBinding (entryToJson b) = .ok (row b) := by
  have hi : (entryToJson b).Indexable := indexable_ofMembers _
  have hdevice : getString (entryToJson b) "device" = .ok b.deviceId :=
    getString_of_field hi (by simp [entryToJson, Json.ofMembers, Json.field_set])
  have hkey : getString (entryToJson b) "key" = .ok b.keyName :=
    getString_of_field hi (by simp [entryToJson, Json.ofMembers, Json.field_set])
  have hcommand : getString (entryToJson b) "command" = .ok b.command :=
    getString_of_field hi (by simp [entryToJson, Json.ofMembers, Json.field_set])
  rw [renderBinding, hdevice, hkey, hcommand]
  rfl

lemma renderBindings_listing :
    renderBindings (listing K "" s.table) = .ok (.array ((allBindings K s.table).map row)) := by
  have hi : (listing K "" s.table).Indexable := trivial
  have hlisted : listed K "" s.table = allBindings K s.table := by
    rw [listed, List.filter_eq_self]
    intro b _
    rfl
  have hbindings : (listing K "" s.table).get "bindings" =
      .ok (.array ((allBindings K s.table).map entryToJson)) := by
    rw [Json.get_indexable hi]
    simp [listing, hlisted, okResponse, Json.ofMembers, Json.field_set]
  rw [renderBindings, hbindings, ok_bind, Json.items, mapM_map_ok renderBinding_toJson]
  rfl

end Responses

section Runs

variable {C truncate socketPath} {K : KeyCodes} {s t : Session} {cmd context : String} {req v : Json}
  {render : Json → Except LogicError Json} {request : Request}

lemma ask_daemon (socketPath context : String) (render : Json → Except LogicError Json)
    (split : Pieces) (hreply : ∀ v, Reply C K v → Written C v) (hw : Written C req)
    (hi : req.Indexable) (hcmd : cmdOf req = some cmd)
    (hrun : (command C K cmd req).run (Session.fresh s) = .ok () t) (hsent : t.sent = [v]) :
    (ask C socketPath (daemon C K split) context req render).run s =
      .ok (respond context render (.ok v)) t := by
  obtain ⟨text, hv, hline, hnonempty, hread⟩ := hreply v (reply_of_command hw hi hcmd hrun hsent)
  have hresult : result C socketPath (.stream (C.fastWriter v)) = .ok v := by
    simp only [result, hv, readLine_written hline, response, if_neg hnonempty, hread]
  have hdaemon := daemon_serves split hw hi hcmd hrun
  rw [hsent, List.flatMap_singleton] at hdaemon
  simp only [ask, EStateM.run_bind, hdaemon, hresult]
  rfl

lemma handle_bind (split : Pieces) (hreply : ∀ v, Reply C K v → Written C v) (body : Option Json)
    (hreq : ∀ req, requestOf (.bind body) = some req → Written C req) :
    ∃ t, (handle C truncate socketPath (daemon C K split) (.bind body)).run s =
        .ok (answer C K s (.bind body)).2 t ∧
      Session.fresh t = Session.fresh (answer C K s (.bind body)).1 := by
  cases hcheck : checkBind body with
  | error refusal =>
    simp only [handle, answer, hcheck]
    exact ⟨s, rfl, rfl⟩
  | ok fields =>
    obtain ⟨device, key, cmdline⟩ := fields
    have hw : Written C (bindRequest device key cmdline) := hreq _ (by rw [requestOf, hcheck]; rfl)
    have hask := ask_daemon socketPath "bind failed: "
      (fun _ => .ok (done ("bound " ++ device ++ " " ++ key))) split hreply hw
      (indexable_ofMembers _) cmdOf_bindRequest (serves_bind (s := Session.fresh s)) rfl
    rw [respond_ite] at hask
    simp only [handle, answer, hcheck]
    exact ⟨_, hask, rfl⟩

lemma handle_unbind (split : Pieces) (hreply : ∀ v, Reply C K v → Written C v) (body : Option Json)
    (hreq : ∀ req, requestOf (.unbind body) = some req → Written C req) :
    ∃ t, (handle C truncate socketPath (daemon C K split) (.unbind body)).run s =
        .ok (answer C K s (.unbind body)).2 t ∧
      Session.fresh t = Session.fresh (answer C K s (.unbind body)).1 := by
  cases hcheck : checkUnbind body with
  | error refusal =>
    simp only [handle, answer, hcheck]
    exact ⟨s, rfl, rfl⟩
  | ok fields =>
    obtain ⟨device, key⟩ := fields
    have hw : Written C (unbindRequest device key) := hreq _ (by rw [requestOf, hcheck]; rfl)
    have hask := ask_daemon socketPath "unbind failed: "
      (fun _ => .ok (done ("unbound " ++ device ++ " " ++ key))) split hreply hw
      (indexable_ofMembers _) cmdOf_unbindRequest (serves_unbind (s := Session.fresh s)) rfl
    rw [respond_ite] at hask
    simp only [handle, answer, hcheck]
    exact ⟨_, hask, rfl⟩

lemma handle_reload (split : Pieces) (hreply : ∀ v, Reply C K v → Written C v)
    (hw : Written C (plainRequest "reload"))
    (hload : LoadReturns C K (s.files s.config.configPath)) :
    ∃ t, (handle C truncate socketPath (daemon C K split) .reload).run s =
        .ok (answer C K s .reload).2 t ∧
      Session.fresh t = Session.fresh (answer C K s .reload).1 := by
  obtain ⟨ok, config, hload⟩ := load_returns C K s.config.configPath hload s.config
  have hask := ask_daemon socketPath "reload failed: "
    (fun _ => .ok (done "config reloaded")) split hreply hw (indexable_ofMembers _)
    cmdOf_plainRequest (serves_reload (s := Session.fresh s) hload) rfl
  rw [respond_ite] at hask
  cases ok with
  | false =>
    simp only [handle, answer, hload]
    exact ⟨_, hask, rfl⟩
  | true =>
    simp only [handle, answer, hload]
    exact ⟨_, hask, rfl⟩

lemma handle_answers (split : Pieces) (hreply : ∀ v, Reply C K v → Written C v)
    (hreq : ∀ req, requestOf request = some req → Written C req)
    (hload : request = .reload → LoadReturns C K (s.files s.config.configPath))
    (hcount : request = .status →
      s.devices.length < 2 ^ 31 ∧ (allBindings K s.table).length < 2 ^ 31) :
    ∃ t, (handle C truncate socketPath (daemon C K split) request).run s =
        .ok (answer C K s request).2 t ∧
      Session.fresh t = Session.fresh (answer C K s request).1 := by
  cases request with
  | status =>
    obtain ⟨hd, hb⟩ := hcount rfl
    have hask := ask_daemon socketPath "status failed: "
      (renderStatus truncate) split hreply (hreq _ rfl) (indexable_ofMembers _)
      cmdOf_plainRequest (serves_status (s := Session.fresh s)) rfl
    rw [statusReport, respond_ok _ (renderStatus_report (s := Session.fresh s) hd hb)] at hask
    exact ⟨_, hask, rfl⟩
  | devices =>
    have hask := ask_daemon socketPath "devices failed: "
      renderDevices split hreply (hreq _ rfl) (indexable_ofMembers _)
      cmdOf_plainRequest (serves_devices (s := Session.fresh s)) rfl
    rw [deviceList, respond_ok _ (renderDevices_list (s := Session.fresh s))] at hask
    exact ⟨_, hask, rfl⟩
  | bindings =>
    have hask := ask_daemon socketPath "bindings failed: "
      renderBindings split hreply (hreq _ rfl) (indexable_ofMembers _)
      cmdOf_plainRequest (serves_all_bindings (s := Session.fresh s)) rfl
    rw [listing, respond_ok _ (renderBindings_listing (s := Session.fresh s))] at hask
    exact ⟨_, hask, rfl⟩
  | bind body => exact handle_bind split hreply body hreq
  | unbind body => exact handle_unbind split hreply body hreq
  | reload => exact handle_reload split hreply (hreq _ rfl) (hload rfl)

end Runs

def mapperOp : Request → Option Op
  | .bind body => (checkBind body).toOption.map fun (device, key, cmdline) => .add device key cmdline
  | .unbind body => (checkUnbind body).toOption.map fun (device, key) => .remove device key
  | _ => none

def succeeded : Response → Option Bool
  | .json _ => some true
  | .failed _ _ | .raised _ => some false

def requests (K : KeyCodes) (runs : List (Pieces × Request)) : Handler (List Response) :=
  runs.mapM fun r => handle C truncate socketPath (daemon C K r.1) r.2

section Refinement

variable {C} {K : KeyCodes}

lemma answer_simulates : Simulates (answer C K) (answer C K) Session.fresh := by
  intro s request
  cases request with
  | bind body =>
    simp only [answer]
    cases checkBind body <;> exact ⟨rfl, rfl⟩
  | unbind body =>
    simp only [answer]
    cases checkUnbind body <;> exact ⟨rfl, rfl⟩
  | reload =>
    simp only [answer, Session.fresh]
    cases (ConfigLoader.load C K s.config.configPath (s.files s.config.configPath)).run s.config with
    | ok ok config => cases ok <;> exact ⟨rfl, rfl⟩
    | error e config => exact ⟨rfl, rfl⟩
  | _ => exact ⟨rfl, rfl⟩

lemma succeeded_ite (ok : Bool) (body : Json) (status : ℕ) (error : Bytes) :
    succeeded (if ok then .json body else .failed status error) = some ok := by
  cases ok <;> rfl

lemma answer_refines {request : Request} (h : request ≠ .reload) : SimulatesSeen mapperOp succeeded
    (answer C K) (BindingMap.call K) (fun s => flat s.table) request := by
  intro s
  have hcall := fun op => call_simulates (K := K) s.table op
  cases request with
  | bind body =>
    simp only [answer, mapperOp]
    cases checkBind body with
    | error refusal => rfl
    | ok fields =>
      obtain ⟨device, key, cmdline⟩ := fields
      obtain ⟨ht, ho⟩ := hcall (.add device key cmdline)
      exact ⟨ht, (succeeded_ite _ _ _ _).trans ho⟩
  | unbind body =>
    simp only [answer, mapperOp]
    cases checkUnbind body with
    | error refusal => rfl
    | ok fields =>
      obtain ⟨device, key⟩ := fields
      obtain ⟨ht, ho⟩ := hcall (.remove device key)
      exact ⟨ht, (succeeded_ite _ _ _ _).trans ho⟩
  | reload => exact absurd rfl h
  | _ => rfl

end Refinement

theorem endpoints_refine_binding_map (K : KeyCodes) (runs : List (Pieces × Request)) (s : Session)
    (hreply : ∀ v, Reply C K v → Written C v)
    (hreq : ∀ r ∈ runs, ∀ req, requestOf r.2 = some req → Written C req)
    (hruns : ∀ r ∈ runs, r.2 ≠ .reload ∧ r.2 ≠ .status) :
    ∃ t responses, (requests C truncate socketPath K runs).run s = .ok responses t ∧
      (Session.fresh t, responses) = run (answer C K) (Session.fresh s) (runs.map Prod.snd) ∧
      (flat t.table, seenOutputs mapperOp succeeded (runs.map Prod.snd) responses) =
        run (BindingMap.call K) (flat s.table) ((runs.map Prod.snd).filterMap mapperOp) := by
  obtain ⟨t, ht, hfresh⟩ := mapM_runs (answer_simulates (C := C) (K := K))
    (fun r => handle C truncate socketPath (daemon C K r.1) r.2) Prod.snd id (s := s)
    fun r (hr : r ∈ runs) s => handle_answers r.1 hreply (hreq r hr) (fun h => absurd h (hruns r hr).1)
      fun h => absurd h (hruns r hr).2
  rw [List.map_id] at ht
  have hops : ∀ request ∈ runs.map Prod.snd, request ≠ .reload := by
    intro request hm
    obtain ⟨r, hr, rfl⟩ := List.mem_map.mp hm
    exact (hruns r hr).1
  obtain ⟨hflat, hanswers⟩ := run_seen (fun request hm => answer_refines (C := C) (hops request hm))
    (Session.fresh s)
  refine ⟨t, _, ht, by rw [hfresh], Prod.ext ?_ hanswers⟩
  rw [← hfresh] at hflat
  exact hflat

def sideRow : Json := row ⟨"G502", "BTN_SIDE", 275, "xdotool key F5"⟩

def rowRequests : List (Pieces × Request) := [(.whole, .bind (some sideRow)),
  (.whole, .unbind (some sideRow)), (.whole, .unbind (some sideRow)), (.whole, .bind none)]

lemma rowRequests_written (r : Pieces × Request) (hr : r ∈ rowRequests) (req : Json)
    (h : requestOf r.2 = some req) : Written lineCodec req := by
  apply written_lines
  simp only [rowRequests, List.mem_cons, List.not_mem_nil, or_false] at hr
  rcases hr with rfl | rfl | rfl | rfl
  · obtain rfl : bindRequest "G502" "BTN_SIDE" "xdotool key F5" = req := Option.some.inj h
    simp [lineTable]
  · obtain rfl : unbindRequest "G502" "BTN_SIDE" = req := Option.some.inj h
    simp [lineTable]
  · obtain rfl : unbindRequest "G502" "BTN_SIDE" = req := Option.some.inj h
    simp [lineTable]
  · cases h

theorem row_requests_answered : ∃ t responses, (requests lineCodec (fun _ => none)
    "/tmp/pointerforce.sock" inputEventCodes rowRequests).run {} = .ok responses t ∧
      responses.map succeeded = [some true, some true, some false, some false] := by
  have hplain : ∀ r ∈ rowRequests, r.2 ≠ .reload ∧ r.2 ≠ .status := by simp [rowRequests]
  obtain ⟨t, responses, hrun, hanswer, -⟩ := endpoints_refine_binding_map lineCodec (fun _ => none)
    "/tmp/pointerforce.sock" inputEventCodes rowRequests {} written_reply rowRequests_written hplain
  have hresponses : responses =
      (run (answer lineCodec inputEventCodes) (Session.fresh {}) (rowRequests.map Prod.snd)).2 :=
    congrArg Prod.snd hanswer
  exact ⟨t, responses, hrun, by rw [hresponses]; decide⟩

end PointerForce.Bridge.CommandEndpoints
