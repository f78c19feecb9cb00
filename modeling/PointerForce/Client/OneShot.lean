import PointerForce.Daemon.RequestFraming
import PointerForce.Foundations.Machines

/-! One request over a connection of its own, as `pfctl` and `ControlClient::send` make it: the request
is written as one line and one line is read back. -/

namespace PointerForce.Client.OneShot

open Foundations Foundations.Faults Foundations.Lines Foundations.Machines Daemon Daemon.ConfigLoader Daemon.ControlServer
  Daemon.ClientSafety Daemon.RequestFraming Daemon.Mapper

inductive Transport where
  | noSocket (reason : String)
  | refused (reason : String)
  | writeFails (reason : String)
  -- what can be read before the connection ends or fails
  | stream (bytes : Bytes)

-- what `read_line` returns, and what it leaves
def readLine (bytes : Bytes) : Bytes × Bytes :=
  match cut isNewline bytes with
  | some (line, rest) => (line.text, rest)
  | none => (bytes, [])

/-- How the bytes that a client writes come out of the daemon's reads. -/
structure Pieces where
  pieces : Bytes → List Bytes
  nonempty : ∀ bytes, [] ∉ pieces bytes
  flatten : ∀ bytes, (pieces bytes).flatten = bytes

def Pieces.whole : Pieces where
  pieces bytes := if bytes = [] then [] else [bytes]
  nonempty bytes := by split <;> simp_all [eq_comm]
  flatten bytes := by split <;> simp_all

variable (C : Codec) (K : KeyCodes)

def daemon (split : Pieces) (payload : Bytes) : Handler Transport := do
  connection C K (split.pieces payload)
  return .stream ((← get).sent.flatMap C.fastWriter)

def bindRequest (device key command : String) : Json := .ofMembers [("cmd", .string "bind"),
  ("device", .string device), ("key", .string key), ("command", .string command)]

def unbindRequest (device key : String) : Json := .ofMembers [("cmd", .string "unbind"),
  ("device", .string device), ("key", .string key)]

def bindingsRequest (device : String) : Json :=
  .ofMembers [("cmd", .string "bindings"), ("device", .string device)]

def plainRequest (cmd : String) : Json := .ofMembers [("cmd", .string cmd)]

def Session.fresh (s : Session) : Session := { s with sent := [], streaming := false }

def Written (v : Json) : Prop :=
  ∃ text, C.fastWriter v = text ++ [newline] ∧ newline ∉ text ∧ text ≠ [] ∧ C.reader text = some v

def Reply (v : Json) : Prop :=
  ∃ line s t, (handleLine C K line).run s = .ok () t ∧ s.sent = [] ∧ v ∈ t.sent

section Requests

variable {C K} {v req : Json} {s t : Session} {cmd device key cmdline : String}

lemma readLine_written {text rest : Bytes} (h : newline ∉ text) :
    readLine (text ++ newline :: rest) = (text, rest) := by
  have htext : ∀ b ∈ text, isNewline b = false := fun b hb => beq_false_of_ne fun he => h (he ▸ hb)
  rw [readLine, cut_line htext (beq_self_eq_true newline) rest]

lemma connection_line (split : Pieces) {text : Bytes} (h : newline ∉ text) :
    (connection C K (split.pieces (text ++ [newline]))).run s =
      (serveLines C K [text]).run (Session.fresh s) := by
  have hline : ∀ l ∈ [(⟨text, newline⟩ : Line UInt8)],
      (∀ b ∈ l.text, isNewline b = false) ∧ isNewline l.last = true := by
    intro l hl
    obtain rfl := List.mem_singleton.mp hl
    exact ⟨fun b hb => beq_false_of_ne fun he => h (he ▸ hb), beq_self_eq_true newline⟩
  have hlines : (lines isNewline (text ++ [newline])).map Line.text = [text] := by
    have hl := (lines_flatMap hline).1
    rw [List.flatMap_singleton] at hl
    rw [show text ++ [newline] = (⟨text, newline⟩ : Line UInt8).full from rfl, hl]
    rfl
  have hconnection := connection_run (C := C) (K := K) (split.pieces (text ++ [newline]))
    (split.nonempty _) s
  rw [split.flatten, hlines] at hconnection
  exact hconnection

lemma daemon_line (split : Pieces) {text : Bytes} (h : newline ∉ text)
    (hrun : (handleLine C K text).run (Session.fresh s) = .ok () t) :
    (daemon C K split (text ++ [newline])).run s =
      .ok (.stream (t.sent.flatMap C.fastWriter)) t := by
  have hserve : (serveLines C K [text]).run (Session.fresh s) = .ok () t := by
    simp only [serveLines, EStateM.run_bind, hrun, EStateM.run_get]
    cases t.streaming <;> rfl
  rw [daemon, EStateM.run_bind, (connection_line split h).trans hserve]
  rfl

lemma daemon_serves (split : Pieces) (hw : Written C req) (hi : req.Indexable)
    (hcmd : cmdOf req = some cmd) (hrun : (command C K cmd req).run (Session.fresh s) = .ok () t) :
    (daemon C K split (C.fastWriter req)).run s =
      .ok (.stream (t.sent.flatMap C.fastWriter)) t := by
  obtain ⟨text, hw, hline, hne, hread⟩ := hw
  rw [hw]
  exact daemon_line split hline ((handleLine_command K _ hne hread hi hcmd).trans hrun)

lemma daemon_raises (split : Pieces) (hw : Written C req) (hi : req.Indexable)
    (hcmd : cmdOf req = some cmd) {e : LogicError}
    (hrun : (command C K cmd req).run (Session.fresh s) = .error e t) :
    (daemon C K split (C.fastWriter req)).run s = .error e t := by
  obtain ⟨text, hw, hline, hne, hread⟩ := hw
  have hserve : (serveLines C K [text]).run (Session.fresh s) = .error e t := by
    have hhandle := (handleLine_command K _ hne hread hi hcmd).trans hrun
    simp only [serveLines, EStateM.run_bind, hhandle]
  rw [hw, daemon, EStateM.run_bind, (connection_line split hline).trans hserve]

lemma reply_of_command (hw : Written C req) (hi : req.Indexable) (hcmd : cmdOf req = some cmd)
    (hrun : (command C K cmd req).run (Session.fresh s) = .ok () t) (hv : t.sent = [v]) :
    Reply C K v := by
  obtain ⟨text, hw, hline, hne, hread⟩ := hw
  exact ⟨text, Session.fresh s, t, (handleLine_command K _ hne hread hi hcmd).trans hrun, rfl,
    by rw [hv]; exact List.mem_cons_self⟩

lemma indexable_ofMembers (members : List (String × Json)) : (Json.ofMembers members).Indexable := by
  rw [Json.ofMembers]
  induction members using List.reverseRecOn with
  | nil => trivial
  | append_singleton members m ih => simp [Json.set]

lemma cmdOf_string (h : req.field "cmd" = some (.string cmd)) : cmdOf req = some cmd := by
  rw [cmdOf, h, Option.bind_some, Json.text?]

lemma cmdOf_bindRequest : cmdOf (bindRequest device key cmdline) = some "bind" :=
  cmdOf_string (by simp [bindRequest, Json.ofMembers, Json.field_set])

lemma cmdOf_unbindRequest : cmdOf (unbindRequest device key) = some "unbind" :=
  cmdOf_string (by simp [unbindRequest, Json.ofMembers, Json.field_set])

lemma cmdOf_bindingsRequest : cmdOf (bindingsRequest device) = some "bindings" :=
  cmdOf_string (by simp [bindingsRequest, Json.ofMembers, Json.field_set])

lemma cmdOf_plainRequest : cmdOf (plainRequest cmd) = some cmd :=
  cmdOf_string (by simp [plainRequest, Json.ofMembers, Json.field_set])

lemma text_string (hi : req.Indexable) {name t : String} (h : req.field name = some (.string t)) :
    text req name = .ok t := text_some hi (by rw [textOf, h, Option.getD_some, Json.text?])

lemma run_hasFields (hi : req.Indexable) {names : List String} {msg : String} {x : Handler Unit}
    (h : ∀ name ∈ names, (req.field name).isSome) :
    (do if !(← hasFields req names) then sendStr (errResponse msg) else x : Handler Unit).run s =
      x.run s := by
  have hall : hasFields req names = .ok true := by
    rw [hasFields_indexable hi, List.all_eq_true.mpr h]
  simp only [EStateM.run_bind, run_lift_ok hall, Bool.not_true, Bool.false_eq_true, if_false]

lemma run_isMember (hi : req.Indexable) {name : String} {x y : Handler Unit} :
    (do if ← req.isMember name then x else y : Handler Unit).run s =
      if (req.field name).isSome then x.run s else y.run s := by
  simp only [EStateM.run_bind, run_lift_ok (Json.isMember_indexable hi name)]
  cases (req.field name).isSome <;> rfl

lemma run_text (hi : req.Indexable) {name t : String} (h : req.field name = some (.string t))
    {f : String → Handler Unit} :
    (do f (← liftM (text req name)) : Handler Unit).run s = (f t).run s := by
  simp only [EStateM.run_bind, run_lift_ok (text_string hi h)]

lemma serves_bind : (command C K "bind" (bindRequest device key cmdline)).run s =
    let added := addBinding K s.table device key cmdline
    .ok () { s with
      table := added.1
      sent := s.sent ++ [if added.2 then okResponse [] else errResponse "Unknown key name"] } := by
  have hi : (bindRequest device key cmdline).Indexable := indexable_ofMembers _
  have hdevice : (bindRequest device key cmdline).field "device" = some (.string device) := by
    simp [bindRequest, Json.ofMembers, Json.field_set]
  have hkey : (bindRequest device key cmdline).field "key" = some (.string key) := by
    simp [bindRequest, Json.ofMembers, Json.field_set]
  have hcommand : (bindRequest device key cmdline).field "command" = some (.string cmdline) := by
    simp [bindRequest, Json.ofMembers, Json.field_set]
  have hbind : command C K "bind" (bindRequest device key cmdline) =
    ControlServer.bind K (bindRequest device key cmdline) := by simp [command]
  rw [hbind, ControlServer.bind]
  refine (run_hasFields hi (by simp [hdevice, hkey, hcommand])).trans ?_
  exact (run_text hi hdevice).trans ((run_text hi hkey).trans (run_text hi hcommand))

lemma serves_unbind : (command C K "unbind" (unbindRequest device key)).run s =
    let removed := removeBinding K s.table device key
    .ok () { s with
      table := removed.1
      sent := s.sent ++ [if removed.2 then okResponse [] else errResponse "Binding not found"] } := by
  have hi : (unbindRequest device key).Indexable := indexable_ofMembers _
  have hdevice : (unbindRequest device key).field "device" = some (.string device) := by
    simp [unbindRequest, Json.ofMembers, Json.field_set]
  have hkey : (unbindRequest device key).field "key" = some (.string key) := by
    simp [unbindRequest, Json.ofMembers, Json.field_set]
  have hunbind : command C K "unbind" (unbindRequest device key) =
    unbind K (unbindRequest device key) := by simp [command]
  rw [hunbind, unbind]
  refine (run_hasFields hi (by simp [hdevice, hkey])).trans ?_
  exact (run_text hi hdevice).trans (run_text hi hkey)

def listed (K : KeyCodes) (filter : String) (table : Table) : List BindingEntry :=
  (allBindings K table).filter fun b => filter.isEmpty || b.deviceId == filter

def listing (K : KeyCodes) (filter : String) (table : Table) : Json :=
  okResponse [("bindings", .array ((listed K filter table).map entryToJson))]

lemma serves_bindings : (command C K "bindings" (bindingsRequest device)).run s =
    .ok () { s with sent := s.sent ++ [listing K device s.table] } := by
  have hi : (bindingsRequest device).Indexable := indexable_ofMembers _
  have hdevice : (bindingsRequest device).field "device" = some (.string device) := by
    simp [bindingsRequest, Json.ofMembers, Json.field_set]
  have hbindings : command C K "bindings" (bindingsRequest device) =
    bindings K (bindingsRequest device) := by simp [command]
  rw [hbindings, bindings]
  refine (run_isMember hi).trans ?_
  rw [hdevice, Option.isSome_some, if_pos rfl]
  exact run_text hi hdevice

lemma serves_all_bindings : (command C K "bindings" (plainRequest "bindings")).run s =
    .ok () { s with sent := s.sent ++ [listing K "" s.table] } := by
  have hi : (plainRequest "bindings").Indexable := indexable_ofMembers _
  have hbindings : command C K "bindings" (plainRequest "bindings") =
    bindings K (plainRequest "bindings") := by simp [command]
  have hdevice : (plainRequest "bindings").field "device" = none := by
    simp [plainRequest, Json.ofMembers, Json.field_set]
  rw [hbindings, bindings]
  refine (run_isMember hi).trans ?_
  rw [hdevice, Option.isSome_none, if_neg Bool.false_ne_true]
  rfl

def statusReport (K : KeyCodes) (s : Session) : Json :=
  okResponse [("version", .string version), ("running", .bool s.running),
    ("device_count", .int s.devices.length),
    ("binding_count", .int (allBindings K s.table).length),
    ("config", .string s.config.configPath)]

lemma serves_status : (command C K "status" req).run s =
    .ok () { s with sent := s.sent ++ [statusReport K s] } := rfl

def deviceList (s : Session) : Json :=
  okResponse [("devices", .array (s.devices.map DeviceInfo.toJson))]

lemma serves_devices : (command C K "devices" req).run s =
    .ok () { s with sent := s.sent ++ [deviceList s] } := by
  have hdevices : command C K "devices" req = devices := by simp [command]
  rw [hdevices]
  rfl

lemma serves_reload {ok : Bool} {config : Config}
    (h : (load C K s.config.configPath (s.files s.config.configPath)).run s.config = .ok ok config) :
    (command C K "reload" req).run s = .ok () { s with
      config
      table := if ok then Mapper.init s.table config else s.table
      sent := s.sent ++ [if ok then okResponse [] else errResponse "Config reload failed – see log"] } := by
  have hreload : command C K "reload" req = reload C K := by simp [command]
  rw [hreload, reload]
  simp only [EStateM.run_bind, EStateM.run_get, onConfig_ok h]
  cases ok <;> rfl

lemma raises_reload {e : LogicError} {config : Config}
    (h : (load C K s.config.configPath (s.files s.config.configPath)).run s.config = .error e config) :
    (command C K "reload" req).run s = .error e { s with config } := by
  have hreload : command C K "reload" req = reload C K := by simp [command]
  rw [hreload, reload]
  simp only [EStateM.run_bind, EStateM.run_get, onConfig_error h]

def commands : List String := ["status", "devices", "bindings", "bind", "unbind", "events", "reload"]

lemma serves_unknown (h : cmd ∉ commands) : (command C K cmd req).run s =
    .ok () { s with sent := s.sent ++ [errResponse ("Unknown command: " ++ cmd)] } := by
  simp only [commands, List.mem_cons, List.not_mem_nil, or_false, not_or] at h
  have hunknown : command C K cmd req = sendStr (errResponse ("Unknown command: " ++ cmd)) := by
    simp [command, h]
  rw [hunknown]
  rfl

lemma mapM_runs {ι Op Out Out' : Type} {answer : Session → Op → Session × Out}
    (hfresh : Simulates answer answer Session.fresh) (program : ι → Handler Out') (op : ι → Op)
    (out : Out → Out') {calls : List ι} (hcalls : ∀ c ∈ calls, ∀ s, ∃ t,
      (program c).run s = .ok (out (answer s (op c)).2) t ∧
        Session.fresh t = Session.fresh (answer s (op c)).1) (s : Session) :
    ∃ t, (calls.mapM program).run s =
        .ok ((Machines.run answer (Session.fresh s) (calls.map op)).2.map out) t ∧
      Session.fresh t = (Machines.run answer (Session.fresh s) (calls.map op)).1 := by
  induction calls generalizing s with
  | nil => exact ⟨s, rfl, rfl⟩
  | cons c calls ih =>
    obtain ⟨t, ht, hlast⟩ := hcalls c List.mem_cons_self s
    obtain ⟨hs, ho⟩ := hfresh s (op c)
    obtain ⟨u, hu, hend⟩ := ih (fun b hb => hcalls b (List.mem_cons_of_mem c hb)) t
    rw [hlast, hs] at hu hend
    rw [ho] at ht
    refine ⟨u, ?_, hend⟩
    simp only [List.mapM_cons, EStateM.run_bind, ht, hu, List.map_cons, run_cons]
    rfl

end Requests

def bindText : Bytes := utf8
  "\x7b\"cmd\":\"bind\",\"command\":\"xdotool key F5\",\"device\":\"G502\",\"key\":\"BTN_SIDE\"\x7d"

def unbindText : Bytes :=
  utf8 "\x7b\"cmd\":\"unbind\",\"device\":\"G502\",\"key\":\"BTN_SIDE\"\x7d"

def unbindKeyText : Bytes :=
  utf8 "\x7b\"cmd\":\"unbind\",\"device\":\"G502\",\"key\":\"KEY_A\"\x7d"

def okText : Bytes := utf8 "\x7b\"ok\":true\x7d"

def notFoundText : Bytes := utf8 "\x7b\"error\":\"Binding not found\",\"ok\":false\x7d"

def invalidText : Bytes :=
  utf8 "\x7b\"error\":\"Invalid JSON or missing 'cmd'\",\"ok\":false\x7d"

def lineTable : List (Bytes × Json) := [
  (bindText, bindRequest "G502" "BTN_SIDE" "xdotool key F5"),
  (unbindText, unbindRequest "G502" "BTN_SIDE"),
  (unbindKeyText, unbindRequest "G502" "KEY_A"),
  (okText, okResponse []),
  (notFoundText, errResponse "Binding not found"),
  (invalidText, errResponse "Invalid JSON or missing 'cmd'")]

def lineCodec : Codec :=
  { Codec.ofTable lineTable with fastWriter v := (Codec.ofTable lineTable).fastWriter v ++ [newline] }

lemma lineCodec_replies {v : Json} (h : Reply lineCodec inputEventCodes v) :
    v = okResponse [] ∨ v = errResponse "Binding not found" ∨
      v = errResponse "Invalid JSON or missing 'cmd'" := by
  obtain ⟨line, s, t, hrun, hs, hv⟩ := h
  have hone : ∀ u w, (handleLine lineCodec inputEventCodes line).run s = .ok () u →
      u.sent = s.sent ++ [w] → v = w := by
    intro u w hu hw
    obtain ⟨-, rfl⟩ := EStateM.Result.ok.inj (hu.symm.trans hrun)
    rw [hw, hs] at hv
    exact List.mem_singleton.mp hv
  by_cases hline : line = []
  · subst line
    cases hrun
    rw [hs] at hv
    cases hv
  cases hread : lineCodec.reader line with
  | none =>
    exact .inr (.inr (hone _ _ (by rw [handleLine_unparsed lineCodec inputEventCodes hline hread]; rfl)
      rfl))
  | some req =>
    have hcommand := fun cmd => @handleLine_command _ inputEventCodes s line req cmd hline hread
    have hwithout := handleLine_without_cmd inputEventCodes s hline hread
    have hremoved : ∀ device key, req = unbindRequest device key →
        v = okResponse [] ∨ v = errResponse "Binding not found" := by
      rintro device key rfl
      have hunbind := (hcommand "unbind" (indexable_ofMembers _) cmdOf_unbindRequest).trans serves_unbind
      have hv := hone _ _ hunbind rfl
      split at hv
      · exact .inl hv
      · exact .inr hv
    have hmem : (line, req) ∈ lineTable := AssociationLists.mem_of_lookup hread
    simp only [lineTable, List.mem_cons, List.not_mem_nil, or_false, Prod.mk.injEq] at hmem
    rcases hmem with ⟨-, rfl⟩ | ⟨-, rfl⟩ | ⟨-, rfl⟩ | ⟨-, rfl⟩ | ⟨-, rfl⟩ | ⟨-, rfl⟩
    · have hbind := (hcommand "bind" (indexable_ofMembers _) (by decide)).trans serves_bind
      have hok : (addBinding inputEventCodes s.table "G502" "BTN_SIDE" "xdotool key F5").2 = true := rfl
      refine .inl ((hone _ _ hbind rfl).trans ?_)
      rw [hok, if_pos rfl]
    · exact (hremoved _ _ rfl).imp_right .inl
    · exact (hremoved _ _ rfl).imp_right .inl
    · exact .inr (.inr (hone _ _ (hwithout trivial rfl) rfl))
    · exact .inr (.inr (hone _ _ (hwithout trivial rfl) rfl))
    · exact .inr (.inr (hone _ _ (hwithout trivial rfl) rfl))

lemma written_lines : ∀ v ∈ lineTable.map Prod.snd, Written lineCodec v := by
  simp only [lineTable, List.map_cons, List.map_nil, List.forall_mem_cons]
  exact ⟨⟨bindText, by decide, by decide, by decide, rfl⟩,
    ⟨unbindText, by decide, by decide, by decide, rfl⟩,
    ⟨unbindKeyText, by decide, by decide, by decide, rfl⟩,
    ⟨okText, by decide, by decide, by decide, rfl⟩,
    ⟨notFoundText, by decide, by decide, by decide, rfl⟩,
    ⟨invalidText, by decide, by decide, by decide, rfl⟩, by simp⟩

lemma written_reply (v : Json) (h : Reply lineCodec inputEventCodes v) : Written lineCodec v := by
  apply written_lines
  rcases lineCodec_replies h with rfl | rfl | rfl <;> simp [lineTable]

end PointerForce.Client.OneShot
