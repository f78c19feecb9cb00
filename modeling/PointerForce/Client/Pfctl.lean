import PointerForce.Client.OneShot
import PointerForce.Daemon.BindingMap

/-! The control client of the command line. -/

namespace PointerForce.Client.Pfctl

open Foundations Foundations.Faults Foundations.FiniteMaps Foundations.Machines Daemon
  Daemon.ControlServer Daemon.ClientSafety Daemon.Mapper OneShot

def socketPath : String := "/tmp/pointerforce.sock"

def usage : String :=
  "pfctl – PointerForce control client\n\nUsage:\n  pfctl status\n  pfctl devices\n" ++
  "  pfctl bindings [<device_id>]\n  pfctl bind   <device_id> <KEY_NAME> <command>\n" ++
  "  pfctl unbind <device_id> <KEY_NAME>\n  pfctl events\n  pfctl reload\n\nSocket: " ++ socketPath ++ "\n"

structure Outcome where
  exit : ℕ := 0
  out : Bytes := []
  err : Bytes := []
  deriving DecidableEq, Repr

-- the command may be given as several arguments
def joined (word : String) (words : List String) : String :=
  words.foldl (fun fullCmd word => fullCmd ++ " " ++ word) word

def buildRequest (cmd : String) (args : List String) : Except String Json :=
  let req := plainRequest cmd
  if cmd = "bindings" then
    match args with
    | device :: _ => .ok (req.set "device" (.string device))
    | [] => .ok req
  else if cmd = "bind" then
    match args with
    | device :: key :: word :: words => .ok (((req.set "device" (.string device)).set "key"
        (.string key)).set "command" (.string (joined word words)))
    | _ => .error "pfctl bind <device> <KEY> <command>\n"
  else if cmd = "unbind" then
    match args with
    | device :: key :: _ => .ok ((req.set "device" (.string device)).set "key" (.string key))
    | _ => .error "pfctl unbind <device> <KEY>\n"
  else .ok req

def getString (v : Json) (name : String) : Except LogicError String := do
  (← v.get name).asString

def getBool (v : Json) (name : String) : Except LogicError Bool := do
  (← v.get name).asBool

variable (C : Codec) (truncate : String → Option ℤ)

def getInt (v : Json) (name : String) : Except LogicError ℤ := do
  (← v.get name).asInt truncate

def yesNo (b : Bool) : String := if b then "yes" else "no"

def printStatus (v : Json) : Except LogicError String :=
  return "Version    : " ++ (← getString v "version") ++ "\n" ++
    "Running    : " ++ yesNo (← getBool v "running") ++ "\n" ++
    "Devices    : " ++ toString (← getInt truncate v "device_count") ++ "\n" ++
    "Bindings   : " ++ toString (← getInt truncate v "binding_count") ++ "\n" ++
    "Config     : " ++ (← getString v "config") ++ "\n"

def printDevice (d : Json) : Except LogicError String :=
  return "  [" ++ (← getString d "id") ++ "]\n" ++
    "    path   : " ++ (← getString d "path") ++ "\n" ++
    "    name   : " ++ (← getString d "name") ++ "\n" ++
    "    active : " ++ yesNo (← getBool d "active") ++ "\n"

def printDevices (v : Json) : Except LogicError String :=
  return String.join (← (← v.get "devices").items.mapM printDevice)

def printBinding (b : Json) : Except LogicError String :=
  return "  [" ++ (← getString b "device") ++ "] " ++ (← getString b "key") ++ "  →  " ++
    (← getString b "command") ++ "\n"

def printBindings (v : Json) : Except LogicError String := do
  let bindings ← v.get "bindings"
  if bindings.isEmpty then return "(no bindings)\n"
  else return String.join (← bindings.items.mapM printBinding)

-- what an event line is printed as
def printEvent (msg : Json) : Except LogicError String := do
  let line := "[" ++ (← getString msg "device") ++ "] " ++ (← getString msg "key")
  let command ← getString msg "command"
  return if command = "" then line else line ++ "  →  " ++ command

lemma length_readLine {bytes : Bytes} (h : (readLine bytes).1 ≠ []) :
    (readLine bytes).2.length < bytes.length := by
  rw [readLine] at h ⊢
  split
  · next hc => exact Lines.length_cut isNewline hc
  · next hc =>
    rw [hc] at h
    exact List.length_pos_of_ne_nil h

def printEvents (bytes : Bytes) : Except LogicError Bytes :=
  if _h : (readLine bytes).1 = [] then .ok []
  else do
    let text ← match C.reader (readLine bytes).1 with
      | some msg => utf8 <$> printEvent msg
      | none => pure (readLine bytes).1
    return text ++ [newline] ++ (← printEvents (readLine bytes).2)
termination_by bytes.length
decreasing_by exact length_readLine _h

def printResponse (cmd : String) (resp : Json) : Except LogicError Outcome := do
  if !(← getBool resp "ok") then
    return { exit := 1, err := utf8 ("Error: " ++ (← getString resp "error") ++ "\n") }
  else if cmd = "status" then return { out := utf8 (← printStatus truncate resp) }
  else if cmd = "devices" then return { out := utf8 (← printDevices resp) }
  else if cmd = "bindings" then return { out := utf8 (← printBindings resp) }
  else return { out := utf8 "OK\n" }

def finish (cmd : String) (bytes : Bytes) : Except LogicError Outcome :=
  if cmd = "events" then
    return { out := utf8 "Listening for events (Ctrl-C to quit)...\n" ++ (← printEvents C bytes) }
  else
    let respLine := (readLine bytes).1
    if respLine = [] then .ok { exit := 1, err := utf8 "pfctl: empty response\n" }
    else match C.reader respLine with
      | none =>
        .ok { exit := 1, err := utf8 "pfctl: invalid response JSON: " ++ respLine ++ [newline] }
      | some resp => printResponse truncate cmd resp

/-- `args` are the arguments after the program's name. It raises where it ends by an exception. -/
def main {m : Type → Type} [Monad m] (exchange : Bytes → m Transport) (args : List String) :
    m (Except LogicError Outcome) :=
  match args with
  | [] => return .ok { out := utf8 usage }
  | cmd :: args =>
    match buildRequest cmd args with
    | .error message => return .ok { exit := 1, err := utf8 message }
    | .ok req => do
      match ← exchange (C.fastWriter req) with
      | .noSocket reason => return .ok { exit := 1, err := utf8 ("socket: " ++ reason ++ "\n") }
      | .refused reason => return .ok { exit := 1, err := utf8 ("pfctl: cannot connect to " ++
          socketPath ++ ": " ++ reason ++ "\n(Is pointerforce running?)\n") }
      | .writeFails _ => return .ok { exit := 1, err := utf8 "pfctl: write failed\n" }
      | .stream bytes => return finish C truncate cmd bytes

def failed (msg : String) : Outcome := { exit := 1, err := utf8 ("Error: " ++ msg ++ "\n") }

def statusText (K : KeyCodes) (s : Session) : String :=
  "Version    : " ++ version ++ "\n" ++ "Running    : " ++ yesNo s.running ++ "\n" ++
    "Devices    : " ++ toString (s.devices.length : ℤ) ++ "\n" ++
    "Bindings   : " ++ toString ((allBindings K s.table).length : ℤ) ++ "\n" ++
    "Config     : " ++ s.config.configPath ++ "\n"

def deviceText (di : DeviceInfo) : String :=
  "  [" ++ di.id ++ "]\n" ++ "    path   : " ++ di.path ++ "\n" ++
    "    name   : " ++ di.hwName ++ "\n" ++ "    active : " ++ yesNo di.active ++ "\n"

def bindingText (b : BindingEntry) : String :=
  "  [" ++ b.deviceId ++ "] " ++ b.keyName ++ "  →  " ++ b.command ++ "\n"

/-- What the program does to the daemon's state and prints, with no socket in between. -/
def answer (K : KeyCodes) (s : Session) : List String → Session × Outcome
  | [] => (s, { out := utf8 usage })
  | cmd :: args =>
    if cmd = "bind" then
      match args with
      | device :: key :: word :: words =>
        let (table, ok) := addBinding K s.table device key (joined word words)
        ({ s with table }, if ok then { out := utf8 "OK\n" } else failed "Unknown key name")
      | _ => (s, { exit := 1, err := utf8 "pfctl bind <device> <KEY> <command>\n" })
    else if cmd = "unbind" then
      match args with
      | device :: key :: _ =>
        let (table, ok) := removeBinding K s.table device key
        ({ s with table }, if ok then { out := utf8 "OK\n" } else failed "Binding not found")
      | _ => (s, { exit := 1, err := utf8 "pfctl unbind <device> <KEY>\n" })
    else (s,
      if cmd = "bindings" then
        let bindings := listed K (args.headD "") s.table
        { out := utf8 (if bindings.isEmpty then "(no bindings)\n"
            else String.join (bindings.map bindingText)) }
      else if cmd = "status" then { out := utf8 (statusText K s) }
      else if cmd = "devices" then { out := utf8 (String.join (s.devices.map deviceText)) }
      else failed ("Unknown command: " ++ cmd))

section Responses

variable {truncate} {K : KeyCodes} {s : Session} {cmd : String}

lemma getString_of_field {v : Json} {name value : String} (hi : v.Indexable)
    (h : v.field name = some (.string value)) : getString v name = .ok value := by
  rw [getString, Json.get_indexable hi, h]
  rfl

lemma getBool_of_field {v : Json} {name : String} {b : Bool} (hi : v.Indexable)
    (h : v.field name = some (.bool b)) : getBool v name = .ok b := by
  rw [getBool, Json.get_indexable hi, h]
  rfl

lemma getInt_of_field {v : Json} {name : String} {n : ℕ} (hi : v.Indexable)
    (h : v.field name = some (.int n)) (hn : n < 2 ^ 31) : getInt truncate v name = .ok n := by
  rw [getInt, Json.get_indexable hi, h, ok_bind, Option.getD_some, Json.asInt_natCast truncate hn]

lemma indexable_okResponse (payload : List (String × Json)) : (okResponse payload).Indexable := trivial

lemma printResponse_ok (payload : List (String × Json)) :
    printResponse truncate cmd (okResponse payload) =
      if cmd = "status" then
        (printStatus truncate (okResponse payload)).map fun text => { out := utf8 text }
      else if cmd = "devices" then
        (printDevices (okResponse payload)).map fun text => { out := utf8 text }
      else if cmd = "bindings" then
        (printBindings (okResponse payload)).map fun text => { out := utf8 text }
      else .ok { out := utf8 "OK\n" } := by
  have hok : getBool (okResponse payload) "ok" = .ok true :=
    getBool_of_field (indexable_okResponse payload) (by rw [okResponse, Json.field_set, if_pos rfl])
  rw [printResponse, hok, ok_bind, Bool.not_true, if_neg Bool.false_ne_true]
  split_ifs <;> rfl

lemma printResponse_err (msg : String) :
    printResponse truncate cmd (errResponse msg) = .ok (failed msg) := by
  have hi : (errResponse msg).Indexable := indexable_ofMembers _
  have hok : getBool (errResponse msg) "ok" = .ok false :=
    getBool_of_field hi (by simp [errResponse, Json.ofMembers, Json.field_set])
  have herror : getString (errResponse msg) "error" = .ok msg :=
    getString_of_field hi (by simp [errResponse, Json.ofMembers, Json.field_set])
  rw [printResponse, hok, ok_bind, herror]
  rfl

lemma printResponse_ite (h : cmd ∉ ["status", "devices", "bindings"]) (ok : Bool) (msg : String) :
    printResponse truncate cmd (if ok then okResponse [] else errResponse msg) =
      .ok (if ok then { out := utf8 "OK\n" } else failed msg) := by
  simp only [List.mem_cons, List.not_mem_nil, or_false, not_or] at h
  cases ok with
  | false => exact printResponse_err msg
  | true => rw [if_pos rfl, printResponse_ok, if_neg h.1, if_neg h.2.1, if_neg h.2.2, if_pos rfl]

lemma printStatus_report (hd : s.devices.length < 2 ^ 31) (hb : (allBindings K s.table).length < 2 ^ 31) :
    printStatus truncate (statusReport K s) = .ok (statusText K s) := by
  have hi : (statusReport K s).Indexable := trivial
  have hversion : getString (statusReport K s) "version" = .ok version :=
    getString_of_field hi (by simp [statusReport, okResponse, Json.ofMembers, Json.field_set])
  have hrunning : getBool (statusReport K s) "running" = .ok s.running :=
    getBool_of_field hi (by simp [statusReport, okResponse, Json.ofMembers, Json.field_set])
  have hdevices : getInt truncate (statusReport K s) "device_count" = .ok (s.devices.length : ℤ) :=
    getInt_of_field hi (by simp [statusReport, okResponse, Json.ofMembers, Json.field_set]) hd
  have hbindings : getInt truncate (statusReport K s) "binding_count" =
      .ok ((allBindings K s.table).length : ℤ) :=
    getInt_of_field hi (by simp [statusReport, okResponse, Json.ofMembers, Json.field_set]) hb
  have hconfig : getString (statusReport K s) "config" = .ok s.config.configPath :=
    getString_of_field hi (by simp [statusReport, okResponse, Json.ofMembers, Json.field_set])
  rw [printStatus, hversion, hrunning, hdevices, hbindings, hconfig]
  rfl

lemma printDevice_toJson (di : DeviceInfo) : printDevice di.toJson = .ok (deviceText di) := by
  have hi : di.toJson.Indexable := indexable_ofMembers _
  have hid : getString di.toJson "id" = .ok di.id :=
    getString_of_field hi (by simp [DeviceInfo.toJson, Json.ofMembers, Json.field_set])
  have hpath : getString di.toJson "path" = .ok di.path :=
    getString_of_field hi (by simp [DeviceInfo.toJson, Json.ofMembers, Json.field_set])
  have hname : getString di.toJson "name" = .ok di.hwName :=
    getString_of_field hi (by simp [DeviceInfo.toJson, Json.ofMembers, Json.field_set])
  have hactive : getBool di.toJson "active" = .ok di.active :=
    getBool_of_field hi (by simp [DeviceInfo.toJson, Json.ofMembers, Json.field_set])
  rw [printDevice, hid, hpath, hname, hactive]
  rfl

lemma printDevices_list :
    printDevices (deviceList s) = .ok (String.join (s.devices.map deviceText)) := by
  have hi : (deviceList s).Indexable := trivial
  have hdevices : (deviceList s).get "devices" = .ok (.array (s.devices.map DeviceInfo.toJson)) := by
    rw [Json.get_indexable hi]
    simp [deviceList, okResponse, Json.ofMembers, Json.field_set]
  rw [printDevices, hdevices, ok_bind, Json.items, mapM_map_ok printDevice_toJson]
  rfl

lemma printBinding_toJson (b : BindingEntry) : printBinding (entryToJson b) = .ok (bindingText b) := by
  have hi : (entryToJson b).Indexable := indexable_ofMembers _
  have hdevice : getString (entryToJson b) "device" = .ok b.deviceId :=
    getString_of_field hi (by simp [entryToJson, Json.ofMembers, Json.field_set])
  have hkey : getString (entryToJson b) "key" = .ok b.keyName :=
    getString_of_field hi (by simp [entryToJson, Json.ofMembers, Json.field_set])
  have hcommand : getString (entryToJson b) "command" = .ok b.command :=
    getString_of_field hi (by simp [entryToJson, Json.ofMembers, Json.field_set])
  rw [printBinding, hdevice, hkey, hcommand]
  rfl

lemma printBindings_listing (filter : String) : printBindings (listing K filter s.table) =
    .ok (if (listed K filter s.table).isEmpty then "(no bindings)\n"
      else String.join ((listed K filter s.table).map bindingText)) := by
  have hi : (listing K filter s.table).Indexable := trivial
  have hbindings : (listing K filter s.table).get "bindings" =
      .ok (.array ((listed K filter s.table).map entryToJson)) := by
    rw [Json.get_indexable hi]
    simp [listing, okResponse, Json.ofMembers, Json.field_set]
  rw [printBindings, hbindings, ok_bind, Json.items, mapM_map_ok printBinding_toJson]
  cases listed K filter s.table <;> rfl

end Responses

def requestOf : List String → Option Json
  | [] => none
  | cmd :: args => (buildRequest cmd args).toOption

section Runs

variable {C truncate} {K : KeyCodes} {s t : Session} {cmd : String} {args : List String} {req v : Json}
  {out : Outcome}

lemma main_request (split : Pieces) (hreply : ∀ v, Reply C K v → Written C v)
    (hreq : buildRequest cmd args = .ok req) (hw : Written C req) (hi : req.Indexable)
    (hcmd : cmdOf req = some cmd) (hne : cmd ≠ "events")
    (hrun : (command C K cmd req).run (Session.fresh s) = .ok () t) (hsent : t.sent = [v])
    (hout : printResponse truncate cmd v = .ok out) :
    (main C truncate (daemon C K split) (cmd :: args)).run s = .ok (.ok out) t := by
  obtain ⟨text, hv, hline, hnonempty, hread⟩ := hreply v (reply_of_command hw hi hcmd hrun hsent)
  have hfinish : finish C truncate cmd (C.fastWriter v) = .ok out := by
    rw [hv, finish, if_neg hne, readLine_written hline, if_neg hnonempty, hread]
    exact hout
  have hdaemon := daemon_serves split hw hi hcmd hrun
  rw [hsent, List.flatMap_singleton] at hdaemon
  simp only [main, hreq, EStateM.run_bind, hdaemon, hfinish]
  rfl

lemma main_bind (split : Pieces) (hreply : ∀ v, Reply C K v → Written C v)
    (hreq : ∀ req, requestOf ("bind" :: args) = some req → Written C req) :
    ∃ t, (main C truncate (daemon C K split) ("bind" :: args)).run s =
        .ok (.ok (answer K s ("bind" :: args)).2) t ∧
      Session.fresh t = Session.fresh (answer K s ("bind" :: args)).1 := by
  rcases args with _ | ⟨device, _ | ⟨key, _ | ⟨word, words⟩⟩⟩
  · exact ⟨s, rfl, rfl⟩
  · exact ⟨s, rfl, rfl⟩
  · exact ⟨s, rfl, rfl⟩
  · have hbuild : buildRequest "bind" (device :: key :: word :: words) =
      .ok (bindRequest device key (joined word words)) := rfl
    exact ⟨_, main_request split hreply hbuild (hreq _ rfl) (indexable_ofMembers _)
      cmdOf_bindRequest (by decide) serves_bind rfl (printResponse_ite (by decide) _ _), rfl⟩

lemma main_unbind (split : Pieces) (hreply : ∀ v, Reply C K v → Written C v)
    (hreq : ∀ req, requestOf ("unbind" :: args) = some req → Written C req) :
    ∃ t, (main C truncate (daemon C K split) ("unbind" :: args)).run s =
        .ok (.ok (answer K s ("unbind" :: args)).2) t ∧
      Session.fresh t = Session.fresh (answer K s ("unbind" :: args)).1 := by
  rcases args with _ | ⟨device, _ | ⟨key, args⟩⟩
  · exact ⟨s, rfl, rfl⟩
  · exact ⟨s, rfl, rfl⟩
  · have hbuild : buildRequest "unbind" (device :: key :: args) = .ok (unbindRequest device key) := rfl
    exact ⟨_, main_request split hreply hbuild (hreq _ rfl) (indexable_ofMembers _)
      cmdOf_unbindRequest (by decide) serves_unbind rfl (printResponse_ite (by decide) _ _), rfl⟩

lemma main_bindings (split : Pieces) (hreply : ∀ v, Reply C K v → Written C v)
    (hreq : ∀ req, requestOf ("bindings" :: args) = some req → Written C req) :
    ∃ t, (main C truncate (daemon C K split) ("bindings" :: args)).run s =
        .ok (.ok (answer K s ("bindings" :: args)).2) t ∧
      Session.fresh t = Session.fresh (answer K s ("bindings" :: args)).1 := by
  have hprint : ∀ filter, printResponse truncate "bindings" (listing K filter s.table) =
      .ok { out := utf8 (if (listed K filter s.table).isEmpty then "(no bindings)\n"
        else String.join ((listed K filter s.table).map bindingText)) } := by
    intro filter
    rw [listing, printResponse_ok, ← listing, printBindings_listing]
    rfl
  cases args with
  | nil =>
    have hbuild : buildRequest "bindings" [] = .ok (plainRequest "bindings") := rfl
    exact ⟨_, main_request split hreply hbuild (hreq _ rfl) (indexable_ofMembers _)
      cmdOf_plainRequest (by decide) serves_all_bindings rfl (hprint ""), rfl⟩
  | cons device args =>
    have hbuild : buildRequest "bindings" (device :: args) = .ok (bindingsRequest device) := rfl
    exact ⟨_, main_request split hreply hbuild (hreq _ rfl) (indexable_ofMembers _)
      cmdOf_bindingsRequest (by decide) serves_bindings rfl (hprint device), rfl⟩

lemma main_answers (split : Pieces) (hreply : ∀ v, Reply C K v → Written C v)
    (hreq : ∀ req, requestOf args = some req → Written C req)
    (hargs : args.head? ∉ [some "events", some "reload"])
    (hcount : args.head? = some "status" →
      s.devices.length < 2 ^ 31 ∧ (allBindings K s.table).length < 2 ^ 31) :
    ∃ t, (main C truncate (daemon C K split) args).run s = .ok (.ok (answer K s args).2) t ∧
      Session.fresh t = Session.fresh (answer K s args).1 := by
  cases args with
  | nil => exact ⟨s, rfl, rfl⟩
  | cons cmd args =>
    by_cases hbind : cmd = "bind"
    · subst cmd
      exact main_bind split hreply hreq
    by_cases hunbind : cmd = "unbind"
    · subst cmd
      exact main_unbind split hreply hreq
    by_cases hbindings : cmd = "bindings"
    · subst cmd
      exact main_bindings split hreply hreq
    have hbuild : buildRequest cmd args = .ok (plainRequest cmd) := by
      simp [buildRequest, hbindings, hbind, hunbind]
    have hw : Written C (plainRequest cmd) := hreq _ (by rw [requestOf, hbuild]; rfl)
    simp only [List.head?_cons, List.mem_cons, List.not_mem_nil, or_false, not_or,
      Option.some.injEq] at hargs hcount
    have hanswer : answer K s (cmd :: args) = (s,
        if cmd = "status" then { out := utf8 (statusText K s) }
        else if cmd = "devices" then { out := utf8 (String.join (s.devices.map deviceText)) }
        else failed ("Unknown command: " ++ cmd)) := by
      simp [answer, hbind, hunbind, hbindings]
    rw [hanswer]
    by_cases hstatus : cmd = "status"
    · subst cmd
      obtain ⟨hd, hb⟩ := hcount rfl
      have hprint : printResponse truncate "status" (statusReport K (Session.fresh s)) =
          .ok { out := utf8 (statusText K s) } := by
        rw [statusReport, printResponse_ok, ← statusReport,
          printStatus_report (s := Session.fresh s) hd hb]
        rfl
      exact ⟨_, main_request split hreply hbuild hw (indexable_ofMembers _)
        cmdOf_plainRequest hargs.1
        serves_status rfl hprint, rfl⟩
    by_cases hdevices : cmd = "devices"
    · subst cmd
      have hprint : printResponse truncate "devices" (deviceList (Session.fresh s)) =
          .ok { out := utf8 (String.join (s.devices.map deviceText)) } := by
        rw [deviceList, printResponse_ok, ← deviceList, printDevices_list]
        rfl
      exact ⟨_, main_request split hreply hbuild hw (indexable_ofMembers _)
        cmdOf_plainRequest hargs.1
        serves_devices rfl hprint, rfl⟩
    rw [if_neg hstatus, if_neg hdevices]
    have hunknown : cmd ∉ commands := by
      simp only [commands, List.mem_cons, List.not_mem_nil, or_false, not_or]
      exact ⟨hstatus, hdevices, hbindings, hbind, hunbind, hargs.1, hargs.2⟩
    exact ⟨_, main_request split hreply hbuild hw (indexable_ofMembers _)
        cmdOf_plainRequest hargs.1
      (serves_unknown hunknown) rfl (printResponse_err _), rfl⟩

end Runs

def invocations (K : KeyCodes) (runs : List (Pieces × List String)) :
    Handler (List (Except LogicError Outcome)) :=
  runs.mapM fun r => main C truncate (daemon C K r.1) r.2

def mapperOp : List String → Option Op
  | [] => none
  | cmd :: args =>
    if cmd = "bind" then
      match args with
      | device :: key :: word :: words => some (.add device key (joined word words))
      | _ => none
    else if cmd = "unbind" then
      match args with
      | device :: key :: _ => some (.remove device key)
      | _ => none
    else none

section Refinement

variable {C truncate} {K : KeyCodes} {s : Session} {args : List String}

lemma answer_simulates : Simulates (answer K) (answer K) Session.fresh := by
  intro s args
  cases args with
  | nil => exact ⟨rfl, rfl⟩
  | cons cmd args =>
    by_cases hbind : cmd = "bind"
    · simp only [answer, if_pos hbind]
      rcases args with _ | ⟨device, _ | ⟨key, _ | ⟨word, words⟩⟩⟩ <;> exact ⟨rfl, rfl⟩
    by_cases hunbind : cmd = "unbind"
    · simp only [answer, if_neg hbind, if_pos hunbind]
      rcases args with _ | ⟨device, _ | ⟨key, args⟩⟩ <;> exact ⟨rfl, rfl⟩
    · simp only [answer, if_neg hbind, if_neg hunbind]
      exact ⟨trivial, rfl⟩

lemma exit_ite (ok : Bool) (msg : String) :
    (((if ok then { out := utf8 "OK\n" } else failed msg : Outcome).exit == 0) : Bool) = ok := by
  cases ok <;> rfl

lemma answer_refines (args : List String) : SimulatesSeen mapperOp
    (fun out => some (out.exit == 0)) (answer K) (BindingMap.call K) (fun s => flat s.table) args := by
  intro s
  have hcall := fun op => call_simulates (K := K) s.table op
  cases args with
  | nil => rfl
  | cons cmd args =>
    by_cases hbind : cmd = "bind"
    · simp only [answer, mapperOp, if_pos hbind]
      rcases args with _ | ⟨device, _ | ⟨key, _ | ⟨word, words⟩⟩⟩
      · rfl
      · rfl
      · rfl
      · obtain ⟨ht, ho⟩ := hcall (.add device key (joined word words))
        exact ⟨ht, (congrArg some (exit_ite _ _)).trans ho⟩
    by_cases hunbind : cmd = "unbind"
    · simp only [answer, mapperOp, if_neg hbind, if_pos hunbind]
      rcases args with _ | ⟨device, _ | ⟨key, args⟩⟩
      · rfl
      · rfl
      · obtain ⟨ht, ho⟩ := hcall (.remove device key)
        exact ⟨ht, (congrArg some (exit_ite _ _)).trans ho⟩
    · simp only [answer, mapperOp, if_neg hbind, if_neg hunbind]

end Refinement

theorem pfctl_refines_binding_map (K : KeyCodes) (runs : List (Pieces × List String)) (s : Session)
    (hreply : ∀ v, Reply C K v → Written C v)
    (hreq : ∀ r ∈ runs, ∀ req, requestOf r.2 = some req → Written C req)
    (hruns : ∀ r ∈ runs, r.2.head? ∉ [some "events", some "reload", some "status"]) :
    ∃ t outs, (invocations C truncate K runs).run s = .ok (outs.map .ok) t ∧
      (Session.fresh t, outs) = run (answer K) (Session.fresh s) (runs.map Prod.snd) ∧
      (flat t.table, seenOutputs mapperOp (fun out => some (out.exit == 0)) (runs.map Prod.snd) outs) =
        run (BindingMap.call K) (flat s.table) ((runs.map Prod.snd).filterMap mapperOp) := by
  obtain ⟨t, ht, hfresh⟩ := mapM_runs (answer_simulates (K := K))
    (fun r => main C truncate (daemon C K r.1) r.2) Prod.snd .ok (s := s) fun r (hr : r ∈ runs) s => by
      have hhead := hruns r hr
      simp only [List.mem_cons, List.not_mem_nil, or_false, not_or] at hhead
      exact main_answers r.1 hreply (hreq r hr) (by simp [hhead]) fun h => absurd h hhead.2.2
  obtain ⟨hflat, hexit⟩ := run_seen
    (fun args (_ : args ∈ runs.map Prod.snd) => answer_refines (K := K) args) (Session.fresh s)
  refine ⟨t, _, ht, by rw [hfresh], Prod.ext ?_ hexit⟩
  rw [← hfresh] at hflat
  exact hflat

def wordyRuns : List (Pieces × List String) := [
  (.whole, ["bind", "G502", "BTN_SIDE", "xdotool", "key", "F5"]),
  (.whole, ["unbind", "G502", "BTN_SIDE"]),
  (.whole, ["unbind", "G502", "BTN_SIDE"]),
  (.whole, ["bind", "G502"])]

lemma wordyRuns_requests (r : Pieces × List String) (hr : r ∈ wordyRuns) (req : Json)
    (h : requestOf r.2 = some req) : Written lineCodec req := by
  have hjoined : joined "xdotool" ["key", "F5"] = "xdotool key F5" := by decide
  apply written_lines
  simp only [wordyRuns, List.mem_cons, List.not_mem_nil, or_false] at hr
  rcases hr with rfl | rfl | rfl | rfl
  · obtain rfl : bindRequest "G502" "BTN_SIDE" (joined "xdotool" ["key", "F5"]) = req := Option.some.inj h
    rw [hjoined]
    simp [lineTable]
  · obtain rfl : unbindRequest "G502" "BTN_SIDE" = req := Option.some.inj h
    simp [lineTable]
  · obtain rfl : unbindRequest "G502" "BTN_SIDE" = req := Option.some.inj h
    simp [lineTable]
  · cases h

theorem wordy_runs_exit : ∃ t, ∃ outs : List Outcome,
    (invocations lineCodec (fun _ => none) inputEventCodes wordyRuns).run {} = .ok (outs.map .ok) t ∧
      outs.map Outcome.exit = [0, 0, 1, 1] := by
  obtain ⟨t, outs, hrun, hanswer, -⟩ := pfctl_refines_binding_map lineCodec (fun _ => none)
    inputEventCodes wordyRuns {} written_reply wordyRuns_requests (by decide)
  have houts : outs = (run (answer inputEventCodes) (Session.fresh {}) (wordyRuns.map Prod.snd)).2 :=
    congrArg Prod.snd hanswer
  exact ⟨t, outs, hrun, by rw [houts]; decide⟩

end PointerForce.Client.Pfctl
