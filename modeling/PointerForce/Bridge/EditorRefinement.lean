import PointerForce.Bridge.ConfigEndpoints

/-! The bridge with the daemon behind it takes every request as the editor does, whichever files and
sockets the two processes have in common. -/

namespace PointerForce.Bridge.ConfigEndpoints

open Foundations Foundations.Faults Foundations.FiniteMaps Foundations.Machines Daemon
  Daemon.ConfigLoader Daemon.ControlServer Daemon.ClientSafety Daemon.ControlSocket Daemon.Mapper
  Client.OneShot ConfigStore EditEffects CommandEndpoints
open ConfigWrite (leftOver)

section Exchanges

variable {C : Codec} {K : KeyCodes} {P : Places} {S : Setting} {w : World} {d : Backend} {call : Call}
  {req v : Json} {cmd : String} {t : Session}

def World.after (w : World) (d : Backend) (t : Session) : World :=
  { w with daemon := some { d with session := t }, said := w.said ++ t.sent }

lemma socketPath_eq : w.socketPath C P = socketOf (w.editor C P).saved := by
  rw [World.socketPath, SocketAgreement.resolveSocketPath, World.editor, socketOf]
  cases w.file P with
  | none => rfl
  | some text =>
    cases hread : C.charReader text with
    | none => simp [ConfigStore.read, hread]
    | some cfg => cases cfg <;> simp [ConfigStore.read, hread, Json.isObject, Json.field, Json.object?]

lemma reached_some (hfits : Fits C P S w) {M : BindingMap}
    (h : (w.editor C P).reached P S = some M) :
    ∃ d, w.daemon = some d ∧ w.reaches C P d = true ∧ flat d.session.table = M := by
  rw [Editor.reached] at h
  split at h
  · next hpath =>
    obtain ⟨d, hd, hflat⟩ := Option.map_eq_some_iff.mp h
    refine ⟨d, hd, ?_, hflat⟩
    rw [World.reaches, beq_iff_eq, hfits.listening d hd, socketPath_eq]
    exact hpath
  · cases h

lemma exchange_away (hfits : Fits C P S w) (h : (w.editor C P).reached P S = none) (payload : Bytes) :
    (exchange C K P call payload).run w = (.refused call.reason, w) := by
  have hunfold : (exchange C K P call payload).run w = exchange C K P call payload w := rfl
  rw [hunfold, exchange]
  cases hd : w.daemon with
  | none => rfl
  | some d =>
    have hreach : w.reaches C P d = false := by
      by_contra hne
      rw [Bool.not_eq_false, World.reaches, beq_iff_eq, socketPath_eq, hfits.listening d hd] at hne
      rw [Editor.reached, if_pos hne, World.editor, hd] at h
      cases h
    simp only [hreach, Bool.false_eq_true, if_false]

lemma exchange_here (hd : w.daemon = some d) (hreach : w.reaches C P d = true) (hw : Written C req)
    (hi : req.Indexable) (hcmd : cmdOf req = some cmd)
    (hrun : (command C K cmd req).run (Session.fresh (w.served P d)) = .ok () t) (hsent : t.sent = [v]) :
    (exchange C K P call (C.fastWriter req)).run w = (.stream (C.fastWriter v), w.after d t) := by
  have hunfold : (exchange C K P call (C.fastWriter req)).run w =
    exchange C K P call (C.fastWriter req) w := rfl
  rw [hunfold, exchange]
  simp only [hd, hreach, if_true, daemon_serves call.split hw hi hcmd hrun, hsent,
    List.flatMap_singleton, World.after]

lemma exchange_ends (hd : w.daemon = some d) (hreach : w.reaches C P d = true) (hw : Written C req)
    (hi : req.Indexable) (hcmd : cmdOf req = some cmd) {e : LogicError}
    (hrun : (command C K cmd req).run (Session.fresh (w.served P d)) = .error e t)
    (hsent : t.sent = []) :
    (exchange C K P call (C.fastWriter req)).run w = (.stream [], { w with daemon := none }) := by
  have hunfold : (exchange C K P call (C.fastWriter req)).run w =
    exchange C K P call (C.fastWriter req) w := rfl
  rw [hunfold, exchange]
  simp only [hd, hreach, if_true, daemon_raises call.split hw hi hcmd hrun, hsent,
    List.flatMap_nil, List.append_nil]

lemma result_written {path : String} (h : Written C v) : result C path (.stream (C.fastWriter v)) = .ok v := by
  obtain ⟨text, hv, hline, hnonempty, hread⟩ := h
  simp only [result, hv, readLine_written hline, response, if_neg hnonempty, hread]

lemma editor_after : (w.after d t).editor C P =
    { saved := (w.editor C P).saved, running := some (flat t.table) } := rfl

lemma fits_after (hfits : Fits C P S w) (hd : w.daemon = some d)
    (hpath : t.config.configPath = d.session.config.configPath) : Fits C P S (w.after d t) where
  path := by
    rintro d' ⟨⟩
    exact hpath.trans (hfits.path d hd)
  listening := by
    rintro d' ⟨⟩
    exact hfits.listening d hd
  ownFile := hfits.ownFile
  parsers := hfits.parsers

lemma after_quiet (hfits : Fits C P S w) (hd : w.daemon = some d) (htable : t.table = d.session.table)
    (hpath : t.config.configPath = d.session.config.configPath) :
    (w.after d t).editor C P = w.editor C P ∧ Fits C P S (w.after d t) := by
  refine ⟨?_, fits_after hfits hd hpath⟩
  rw [editor_after, htable, World.editor, hd]
  rfl

lemma reportedPath_status (s : Session) :
    reportedPath (.ok (statusReport K s)) = .ok s.config.configPath := by
  have hi : (statusReport K s).Indexable := trivial
  have hok : getBool (statusReport K s) "ok" = .ok true :=
    getBool_of_field hi (by simp [statusReport, okResponse, Json.field_set])
  have hconfig : getString (statusReport K s) "config" = .ok s.config.configPath :=
    getString_of_field hi (by simp [statusReport, okResponse, Json.ofMembers, Json.field_set])
  simp only [reportedPath, hok, ok_bind, Bool.not_true, Bool.false_eq_true, if_false, hconfig]

lemma daemonPathWarning_eq (hpath : d.session.config.configPath = S.daemonPath) :
    daemonPathWarning P d.session.config.configPath ≠ "" ↔ S.mismatched P = true := by
  rw [hpath, daemonPathWarning, Setting.mismatched]
  split
  · next he => simp [he]
  · next hne =>
    split
    · next hs => simp [hs]
    · next hs => simp [hne, hs]

lemma seen_withWarning (hpath : d.session.config.configPath = S.daemonPath) {j : Json}
    (hj : j.field "warning" = none) :
    seen (withWarning P j (.ok d.session.config.configPath)) =
      { ok := true, config := j.field "config", warned := S.mismatched P } := by
  simp only [withWarning]
  split
  · next he =>
    have hs : S.mismatched P = false := by
      rw [← Bool.not_eq_true, ← daemonPathWarning_eq hpath]
      exact fun hne => hne he
    simp only [seen, hj, hs, Option.isSome_none]
  · next hne =>
    have hs := (daemonPathWarning_eq hpath).mp hne
    simp only [seen, Json.field_set, hs, Option.isSome_some, String.reduceEq, if_false, if_true]

lemma attach_run {j : Json} {transport : Transport} {w' : World}
    (h : (exchange C K P call (C.fastWriter (plainRequest "status"))).run w = (transport, w')) :
    (attachConfigWarning C K P call j).run w =
      (withWarning P j (reportedPath (result C (w.socketPath C P) transport)), w') := by
  simp only [attachConfigWarning, daemonReportedPath, StateT.run_bind, StateT.run_get, pure_bind, h]
  rfl

lemma attach_here (hd : w.daemon = some d) (hreach : w.reaches C P d = true)
    (hstatus : Written C (plainRequest "status")) {j : Json} :
    let s := Session.fresh (w.served P d)
    (attachConfigWarning C K P call j).run w =
      (withWarning P j (reportedPath (result C (w.socketPath C P)
        (.stream (C.fastWriter (statusReport K s))))), w.after d { s with sent := [statusReport K s] }) :=
  attach_run (exchange_here hd hreach hstatus (indexable_ofMembers _) cmdOf_plainRequest serves_status
    rfl)

lemma attach (hfits : Fits C P S w) (hstatus : Written C (plainRequest "status")) {j : Json}
    (hj : j.field "warning" = none)
    (hsaid : ∀ v ∈ ((attachConfigWarning C K P call j).run w).2.said, Written C v) :
    ∃ r w', (attachConfigWarning C K P call j).run w = (r, w') ∧
      seen r = { ok := true, config := j.field "config", warned := (w.editor C P).warned P S } ∧
      w'.editor C P = w.editor C P ∧ Fits C P S w' := by
  cases hr : (w.editor C P).reached P S with
  | none =>
    have hquiet : withWarning P j (reportedPath (result C (w.socketPath C P) (.refused call.reason))) =
      .json j := rfl
    refine ⟨_, w, attach_run (exchange_away hfits hr _), ?_, rfl, hfits⟩
    rw [hquiet]
    simp [seen, hj, Editor.warned, hr]
  | some M =>
    obtain ⟨d, hd, hreach, hflat⟩ := reached_some hfits hr
    have hrun : (attachConfigWarning C K P call j).run w = _ := attach_here hd hreach hstatus
    rw [hrun] at hsaid
    refine ⟨_, _, hrun, ?_, after_quiet hfits hd rfl rfl⟩
    have hwritten : Written C (statusReport K (Session.fresh (w.served P d))) :=
      hsaid _ (List.mem_append_right _ (List.mem_singleton_self _))
    rw [result_written hwritten, reportedPath_status]
    refine (seen_withWarning (hfits.path d hd) hj).trans ?_
    simp [Editor.warned, hr]

end Exchanges

section Steps

variable (C : Codec) (K : KeyCodes) {truncate : String → Option ℤ} (P : Places) {S : Setting} {w : World}
  {call : Call}

structure Takes (S : Setting) (w : World) (op : EditorOp) (p : Response × World) : Prop where
  fits : Fits C P S p.2
  editor : p.2.editor C P = (Editor.step K P S (w.editor C P) op).1
  seen : seen p.1 = (Editor.step K P S (w.editor C P) op).2

variable {C K P}

lemma file_wrote (cfg : Json) (lost : ℕ) :
    (w.wrote C P cfg lost).file P = some (leftOver (C.streamWriter cfg) lost) := by
  simp [World.wrote, World.file]

lemma Restored.leftOver_eq {parse : Bytes → Option Json} {cfg : Json} (h : Restored C parse cfg)
    (lost : ℕ) : parse (leftOver (C.streamWriter cfg) lost) =
      if decide (lost = 0) then some cfg else none := by
  by_cases hl : lost = 0
  · rw [hl, leftOver, Nat.sub_zero, List.take_length, h.whole]
    rfl
  · simp [hl, h.cut lost hl]

lemma wrote {cfg : Json} {lost : ℕ} (hfits : Fits C P S w)
    (hround : Restored C C.reader cfg ∧ Restored C C.charReader cfg) :
    (w.wrote C P cfg lost).editor C P =
        { w.editor C P with saved := if decide (lost = 0) then some cfg else none } ∧
      Fits C P S (w.wrote C P cfg lost) := by
  refine ⟨?_, hfits.path, hfits.listening, ?_, ?_⟩
  · rw [World.editor, file_wrote, Option.bind_some, hround.2.leftOver_eq]
    rfl
  · intro hs
    rw [← hfits.ownFile hs]
    simp only [Setting.shared, beq_eq_false_iff_ne] at hs
    simp only [World.wrote, Function.update_of_ne hs]
  · rw [file_wrote, Option.bind_some, Option.bind_some, hround.1.leftOver_eq,
      hround.2.leftOver_eq]

lemma save_run {cfg reply : Json} {lost : ℕ} (hwrite : call.write = .replaced lost) :
    (save C K P call cfg reply).run w =
      (attachConfigWarning C K P call reply).run (w.wrote C P cfg lost) := by
  simp only [save, hwrite, StateT.run_bind]
  rfl

structure Since (w w' : World) : Prop where
  said : w.said ⊆ w'.said
  saves : w.saves ⊆ w'.saves

lemma Since.refl (w : World) : Since w w := ⟨List.Subset.refl _, List.Subset.refl _⟩

lemma Since.faithful {w' : World} (h : Since w w') (hgood : Faithful C w') : Faithful C w :=
  ⟨fun v hv => hgood.said v (h.said hv), fun cfg hc => hgood.saves cfg (h.saves hc)⟩

lemma since_exchange (payload : Bytes) : Since w ((exchange C K P call payload).run w).2 := by
  have hunfold : (exchange C K P call payload).run w = exchange C K P call payload w := rfl
  rw [hunfold, exchange]
  cases w.daemon with
  | none => exact .refl w
  | some d =>
    dsimp only
    split
    · split
      · exact ⟨List.subset_append_left _ _, List.Subset.refl _⟩
      · exact ⟨List.subset_append_left _ _, List.Subset.refl _⟩
    · exact .refl w

lemma since_attach (j : Json) : Since w ((attachConfigWarning C K P call j).run w).2 :=
  since_exchange (C.fastWriter (plainRequest "status"))

lemma since_save (cfg reply : Json) : Since w ((save C K P call cfg reply).run w).2 := by
  cases hwrite : call.write with
  | failed error =>
    simp only [save, hwrite]
    exact .refl w
  | replaced lost =>
    rw [save_run hwrite]
    have hattach : Since (w.wrote C P cfg lost)
      ((attachConfigWarning C K P call reply).run (w.wrote C P cfg lost)).2 := since_attach reply
    exact ⟨hattach.said, List.Subset.trans (List.subset_append_left _ _) hattach.saves⟩

lemma since_ask (path context : String) (req : Json) (render : Json → Except LogicError Json) :
    Since w ((ask C path (exchange C K P call) context req render).run w).2 := by
  simp only [ask, StateT.run_bind]
  exact since_exchange _

lemma since_command (path : String) (request : CommandEndpoints.Request) :
    Since w ((CommandEndpoints.handle C truncate path (exchange C K P call) request).run w).2 := by
  cases request with
  | bind body =>
    rw [CommandEndpoints.handle]
    split
    · exact .refl w
    · exact since_ask _ _ _ _
  | unbind body =>
    rw [CommandEndpoints.handle]
    split
    · exact .refl w
    · exact since_ask _ _ _ _
  | _ => exact since_ask _ _ _ _

lemma since_put (body : Option Json) : Since w ((putConfig C K P call body).run w).2 := by
  rw [putConfig.eq_def]
  split
  · exact .refl w
  · split
    · exact .refl w
    · split
      · exact .refl w
      · exact since_save _ _

lemma run_get_bind {α : Type} (f : World → Serving α) : (get >>= f : Serving α).run w = (f w).run w :=
  rfl

lemma handle_command {request : CommandEndpoints.Request} (h : call.request = .command request) :
    (handle C K truncate P call).run w =
      (CommandEndpoints.handle C truncate (w.socketPath C P) (exchange C K P call) request).run w := by
  rw [handle, h]
  exact run_get_bind fun w =>
    CommandEndpoints.handle C truncate (w.socketPath C P) (exchange C K P call) request

lemma since_step : Since w (step C K truncate P w call).1 := by
  rw [step, Prod.fst_swap]
  cases hreq : call.request with
  | command request =>
    rw [handle_command hreq]
    exact since_command _ _
  | getConfig =>
    rw [handle, hreq]
    simp only [getConfig, StateT.run_bind, StateT.run_get, pure_bind]
    split
    · exact .refl w
    · exact since_attach _
  | putConfig body =>
    rw [handle, hreq]
    exact since_put _
  | device request =>
    rw [handle, hreq]
    simp only [editDevice, StateT.run_bind, StateT.run_get, pure_bind]
    split
    · exact .refl w
    · exact since_save _ _

lemma takes_refuse {r : Response} (hfits : Fits C P S w) (hr : seen r = .refused) :
    Takes C K P S w .refuse (r, w) := ⟨hfits, rfl, hr⟩

lemma save_refused {cfg reply : Json} {error : String} (hwrite : call.write = .failed error) :
    ∃ r, (save C K P call cfg reply).run w = (r, w) ∧ seen r = .refused := by
  simp only [save, hwrite]
  exact ⟨_, rfl, rfl⟩

lemma save_kept {cfg reply : Json} {lost : ℕ} (hfits : Fits C P S w)
    (hstatus : Written C (plainRequest "status")) (hwrite : call.write = .replaced lost)
    (hw : reply.field "warning" = none) (hc : reply.field "config" = none)
    (hgood : Faithful C ((save C K P call cfg reply).run w).2) :
    ∃ r w', (save C K P call cfg reply).run w = (r, w') ∧ Fits C P S w' ∧
      (w'.editor C P, seen r) = (w.editor C P).save P S (lost = 0) (some cfg) := by
  rw [save_run hwrite] at hgood ⊢
  have hsince : Since (w.wrote C P cfg lost)
    ((attachConfigWarning C K P call reply).run (w.wrote C P cfg lost)).2 := since_attach reply
  have hwrote := hsince.faithful hgood
  have hround := hwrote.saves cfg (List.mem_append_right _ (List.mem_singleton_self _))
  have hkept : (w.wrote C P cfg lost).editor C P = _ ∧ Fits C P S (w.wrote C P cfg lost) :=
    wrote hfits hround
  obtain ⟨heditor, hfits'⟩ := hkept
  obtain ⟨r, w', hrun, hseen, hkept, hend⟩ := attach hfits' hstatus hw hgood.said
  refine ⟨r, w', hrun, hend, ?_⟩
  rw [hkept, hseen, heditor, hc]
  rfl

lemma toOption_bind {ε α β : Type} (x : Except ε α) (f : α → Except ε β) :
    (x >>= f).toOption = x.toOption.bind fun a => (f a).toOption := by
  cases x <;> rfl

lemma read_toOption (file : Option Bytes) : (ConfigStore.read C configPath file).toOption =
    (file.bind C.charReader).filter Json.isObject := by
  cases file with
  | none => rfl
  | some text =>
    cases hread : C.charReader text with
    | none => simp [ConfigStore.read, hread, Except.toOption]
    | some out =>
      simp only [ConfigStore.read, hread, Option.bind_some, Option.filter_some]
      cases out.isObject <;> rfl

lemma edited_toOption (request : DeviceEndpoints.Request) (file : Option Bytes) :
    (edited C request file).toOption = Editor.editDocument request (file.bind C.charReader) := by
  have hread : (DeviceEndpoints.refusing 500 "failed to read config: "
      (ConfigStore.read C configPath file)).toOption = (file.bind C.charReader).filter Json.isObject := by
    rw [← read_toOption]
    cases ConfigStore.read C configPath file <;> rfl
  have hcheck : ∀ cfg, (do DeviceEndpoints.checkWrite cfg; return cfg : Except _ Json).toOption =
      (validate cfg).toOption.map fun _ => cfg := by
    intro cfg
    rw [DeviceEndpoints.checkWrite]
    cases validate cfg <;> rfl
  simp only [edited, toOption_bind, hread, Editor.editDocument]
  simp only [toOption_bind] at hcheck
  simp only [hcheck]
  rfl

lemma takes_get (hfits : Fits C P S w) (hstatus : Written C (plainRequest "status"))
    (hgood : Faithful C ((getConfig C K P call).run w).2) :
    Takes C K P S w .read ((getConfig C K P call).run w) := by
  simp only [getConfig, StateT.run_bind, StateT.run_get, pure_bind] at hgood ⊢
  have hsaved : (w.editor C P).saved.filter Json.isObject =
      (ConfigStore.read C configPath (w.file P)).toOption := (read_toOption _).symm
  cases hread : ConfigStore.read C configPath (w.file P) with
  | error error =>
    rw [hread] at hsaved
    exact ⟨hfits, rfl, by simp only [Editor.step, hsaved]; rfl⟩
  | ok cfg =>
    rw [hread] at hgood hsaved
    obtain ⟨r, w', hrun, hseen, hkept, hend⟩ := attach hfits hstatus
      (by simp [Json.ofMembers, Json.field_set]) hgood.said
    rw [hrun]
    refine ⟨hend, hkept, hseen.trans ?_⟩
    simp [Editor.step, hsaved, Except.toOption, Json.ofMembers, Json.field_set]

lemma writeView_failed {op : Bool → EditorOp} {error : String} (hwrite : call.write = .failed error) :
    writeView call op = .refuse := by
  rw [writeView, hwrite]

lemma writeView_replaced {op : Bool → EditorOp} {lost : ℕ} (hwrite : call.write = .replaced lost) :
    writeView call op = op (lost = 0) := by
  rw [writeView, hwrite]

lemma takes_write {cfg reply : Json} {op : Bool → EditorOp} (hfits : Fits C P S w)
    (hstatus : Written C (plainRequest "status")) (hw : reply.field "warning" = none)
    (hc : reply.field "config" = none)
    (hop : ∀ whole, Editor.step K P S (w.editor C P) (op whole) =
      (w.editor C P).save P S whole (some cfg))
    (hgood : Faithful C ((save C K P call cfg reply).run w).2) :
    Takes C K P S w (writeView call op) ((save C K P call cfg reply).run w) := by
  cases hwrite : call.write with
  | failed error =>
    obtain ⟨r, hrun, hr⟩ := save_refused (C := C) (K := K) (P := P) (w := w) hwrite
    rw [hrun, writeView_failed hwrite]
    exact takes_refuse hfits hr
  | replaced lost =>
    obtain ⟨r, w', hrun, hend, hed⟩ := save_kept hfits hstatus hwrite hw hc hgood
    rw [hrun, writeView_replaced hwrite]
    rw [← hop] at hed
    exact ⟨hend, congrArg Prod.fst hed, congrArg Prod.snd hed⟩

lemma takes_write_refused {r : Response} {op : Bool → EditorOp} (hfits : Fits C P S w)
    (hr : seen r = .refused)
    (hop : ∀ whole, Editor.step K P S (w.editor C P) (op whole) = (w.editor C P, .refused)) :
    Takes C K P S w (writeView call op) (r, w) := by
  cases hwrite : call.write with
  | failed error =>
    rw [writeView_failed hwrite]
    exact takes_refuse hfits hr
  | replaced lost =>
    rw [writeView_replaced hwrite]
    exact ⟨hfits, by rw [hop], by rw [hop]; exact hr⟩

lemma takes_put (hfits : Fits C P S w) (hstatus : Written C (plainRequest "status"))
    (body : Option Json) (hgood : Faithful C ((putConfig C K P call body).run w).2) :
    Takes C K P S w (writeView call (putView body)) ((putConfig C K P call body).run w) := by
  cases body with
  | none => exact takes_write_refused hfits rfl fun _ => rfl
  | some json =>
    rw [putConfig] at hgood ⊢
    cases he : enclosed json with
    | error e =>
      refine takes_write_refused hfits rfl fun whole => ?_
      rw [putView, Option.bind_some, he]
      rfl
    | ok cfg =>
      have hop : ∀ whole, putView (some json) whole = .replace cfg whole := by
        intro whole
        rw [putView, Option.bind_some, he]
        rfl
      simp only [he] at hgood ⊢
      cases hv : validate cfg with
      | error error =>
        refine takes_write_refused hfits rfl fun whole => ?_
        simp only [hop, Editor.step, hv]
        rfl
      | ok u =>
        simp only [hv] at hgood ⊢
        refine takes_write hfits hstatus (by simp [Json.ofMembers, Json.field_set])
          (by simp [Json.ofMembers, Json.field_set]) (fun whole => ?_) hgood
        simp only [hop, Editor.step, hv]
        rfl

lemma deviceReply_fields (request : DeviceEndpoints.Request) {name : String} (hok : name ≠ "ok")
    (hdevice : name ≠ "device") : (deviceReply request).field name = none := by
  rw [deviceReply]
  split <;> simp [Json.ofMembers, Json.field_set, hok, hdevice]

lemma takes_edit (hfits : Fits C P S w) (hstatus : Written C (plainRequest "status"))
    (request : DeviceEndpoints.Request)
    (hgood : Faithful C ((editDevice C K P call request).run w).2) :
    Takes C K P S w (writeView call (.edit request)) ((editDevice C K P call request).run w) := by
  simp only [editDevice, StateT.run_bind, StateT.run_get, pure_bind] at hgood ⊢
  have hsaved : Editor.editDocument request (w.editor C P).saved =
      (edited C request (w.file P)).toOption := (edited_toOption _ _).symm
  cases he : edited C request (w.file P) with
  | error failure =>
    rw [he] at hsaved
    refine takes_write_refused hfits ?_ fun whole => ?_
    · cases failure <;> rfl
    · simp only [Editor.step, hsaved]
      rfl
  | ok cfg =>
    rw [he] at hsaved hgood
    refine takes_write hfits hstatus (deviceReply_fields request (by decide) (by decide))
      (deviceReply_fields request (by decide) (by decide)) (fun whole => ?_) hgood
    simp only [Editor.step, hsaved]
    rfl

section Commands

variable {path context cmd : String} {req : Json} {render : Json → Except LogicError Json}

lemma ask_run {transport : Transport} {w' : World}
    (h : (exchange C K P call (C.fastWriter req)).run w = (transport, w')) :
    (ask C path (exchange C K P call) context req render).run w =
      (respond context render (result C path transport), w') := by
  simp only [ask, StateT.run_bind, h]
  rfl

lemma ask_quiet (hfits : Fits C P S w) (hw : Written C req) (hi : req.Indexable)
    (hcmd : cmdOf req = some cmd) (hserve : ∀ s, ∃ v, (command C K cmd req).run s =
      .ok () { s with sent := s.sent ++ [v] }) :
    ((ask C path (exchange C K P call) context req render).run w).2.editor C P = w.editor C P ∧
      Fits C P S ((ask C path (exchange C K P call) context req render).run w).2 := by
  cases hr : (w.editor C P).reached P S with
  | none =>
    rw [ask_run (exchange_away hfits hr _)]
    exact ⟨rfl, hfits⟩
  | some M =>
    obtain ⟨d, hd, hreach, -⟩ := reached_some hfits hr
    obtain ⟨v, hv⟩ := hserve (Session.fresh (w.served P d))
    rw [ask_run (exchange_here hd hreach hw hi hcmd hv rfl)]
    exact after_quiet hfits hd rfl rfl

lemma seen_ite (ok : Bool) (output msg : String) :
    seen (if ok then .json (done output) else .failed 500 (utf8 context ++ utf8 msg)) = { ok } := by
  cases ok with
  | false => rfl
  | true => simp [seen, done, Json.ofMembers, Json.field_set]

lemma takes_mapper {op : Op} {msg output : String} (hfits : Fits C P S w) (hw : Written C req)
    (hi : req.Indexable) (hcmd : cmdOf req = some cmd)
    (hserve : ∀ s, (command C K cmd req).run s = .ok () { s with
      table := (Mapper.call K s.table op).1
      sent := s.sent ++ [if (Mapper.call K s.table op).2.getD false then okResponse []
        else errResponse msg] })
    (hgood : Faithful C ((ask C path (exchange C K P call) context req
      fun _ => .ok (done output)).run w).2) :
    Takes C K P S w (.mapper op) ((ask C path (exchange C K P call) context req
      fun _ => .ok (done output)).run w) := by
  cases hr : (w.editor C P).reached P S with
  | none =>
    rw [ask_run (exchange_away hfits hr _)]
    exact ⟨hfits, by simp only [Editor.step, hr], by simp only [Editor.step, hr]; rfl⟩
  | some M =>
    obtain ⟨d, hd, hreach, rfl⟩ := reached_some hfits hr
    rw [ask_run (exchange_here hd hreach hw hi hcmd (hserve _) rfl)] at hgood ⊢
    obtain ⟨htable, hout⟩ := call_simulates (K := K) d.session.table op
    refine ⟨fits_after hfits hd rfl, ?_, ?_⟩
    · simp only [Editor.step, hr, editor_after, ← htable]
      rfl
    · have hsent := hgood.said _ (List.mem_append_right _ (List.mem_singleton_self _))
      simp only [Editor.step, hr, ← hout]
      rw [result_written hsent, respond_ite]
      exact seen_ite _ _ _

lemma daemon_document (hfits : Fits C P S w) :
    (w.disk (P.daemon (cStr S.daemonPath))).bind C.reader =
      if S.shared P then (w.editor C P).saved else S.ownFile := by
  split
  · next hs =>
    rw [beq_iff_eq.mp hs]
    exact hfits.parsers
  · next hs => exact hfits.ownFile (Bool.eq_false_iff.mpr hs)

section Reload

variable {d : Backend} {M : BindingMap} (hfits : Fits C P S w) (hd : w.daemon = some d)
  (hreach : w.reaches C P d = true) (hr : (w.editor C P).reached P S = some M)
  (hw : Written C (plainRequest "reload"))

include hr in
lemma step_reload : Editor.step K P S (w.editor C P) .reload = (w.editor C P).reload K P S := by
  rw [Editor.step.eq_def]
  simp only [hr]

include hfits hd in
lemma load_served {result : EStateM.Result LogicError Config Bool}
    (hload : (load C K S.daemonPath (w.disk (P.daemon (cStr S.daemonPath)))).run d.session.config =
      result) :
    (load C K (Session.fresh (w.served P d)).config.configPath
      ((Session.fresh (w.served P d)).files (Session.fresh (w.served P d)).config.configPath)).run
        (Session.fresh (w.served P d)).config = result := by
  have hserved : (Session.fresh (w.served P d)).config.configPath = S.daemonPath := hfits.path d hd
  rw [hserved]
  exact hload

include hfits hd hreach hr hw

lemma reload_answered {ok : Bool} {config : Config}
    (hload : (load C K S.daemonPath (w.disk (P.daemon (cStr S.daemonPath)))).run d.session.config =
      .ok ok config) (hpath : config.configPath = S.daemonPath)
    (hspec : (w.editor C P).reload K P S = ({ w.editor C P with
      running := some (flat (if ok then Mapper.init d.session.table config else d.session.table)) },
        { ok }))
    (hgood : Faithful C ((ask C path (exchange C K P call) "reload failed: " (plainRequest "reload")
      fun _ => .ok (done "config reloaded")).run w).2) :
    Takes C K P S w .reload ((ask C path (exchange C K P call) "reload failed: "
      (plainRequest "reload") fun _ => .ok (done "config reloaded")).run w) := by
  rw [ask_run (exchange_here hd hreach hw (indexable_ofMembers _) cmdOf_plainRequest
    (serves_reload (load_served hfits hd hload)) rfl)] at hgood ⊢
  have hsent := hgood.said _ (List.mem_append_right _ (List.mem_singleton_self _))
  refine ⟨fits_after hfits hd (hpath.trans (hfits.path d hd).symm), ?_, ?_⟩
  · rw [step_reload hr, hspec]
    rfl
  · rw [step_reload hr, hspec, result_written hsent, respond_ite]
    exact seen_ite _ _ _

lemma reload_raised {e : LogicError} {config : Config}
    (hload : (load C K S.daemonPath (w.disk (P.daemon (cStr S.daemonPath)))).run d.session.config =
      .error e config)
    (hspec : (w.editor C P).reload K P S = ({ w.editor C P with running := none }, .refused)) :
    Takes C K P S w .reload ((ask C path (exchange C K P call) "reload failed: "
      (plainRequest "reload") fun _ => .ok (done "config reloaded")).run w) := by
  rw [ask_run (exchange_ends hd hreach hw (indexable_ofMembers _) cmdOf_plainRequest
    (raises_reload (load_served hfits hd hload)) rfl)]
  refine ⟨⟨by rintro d' ⟨⟩, by rintro d' ⟨⟩, hfits.ownFile, hfits.parsers⟩, ?_, ?_⟩
  · rw [step_reload hr, hspec]
    rfl
  · rw [step_reload hr, hspec]
    rfl

lemma takes_reload (hgood : Faithful C ((ask C path (exchange C K P call) "reload failed: "
      (plainRequest "reload") fun _ => .ok (done "config reloaded")).run w).2) :
    Takes C K P S w .reload ((ask C path (exchange C K P call) "reload failed: "
      (plainRequest "reload") fun _ => .ok (done "config reloaded")).run w) := by
  have hfile := daemon_document hfits
  have hpath := hfits.path d hd
  have hkept : w.editor C P = { w.editor C P with running := some (flat d.session.table) } := by
    rw [World.editor, hd]
    rfl
  cases hroot : (if S.shared P then (w.editor C P).saved else S.ownFile) with
  | none =>
    rw [hroot] at hfile
    refine reload_answered hfits hd hreach hr hw (load_unparsed hfile _) hpath ?_ hgood
    rw [Editor.reload, hroot]
    exact congrArg₂ Prod.mk hkept rfl
  | some root =>
    rw [hroot] at hfile
    cases hdevs : devicesOf root with
    | none =>
      by_cases hi : root.Indexable
      · refine reload_answered hfits hd hreach hr hw (load_without_devices hfile hi hdevs _) rfl ?_ hgood
        rw [Editor.reload, hroot]
        simp only [hdevs, if_pos hi]
        exact congrArg₂ Prod.mk hkept rfl
      · refine reload_raised hfits hd hreach hr hw (load_not_indexable hfile hi _) ?_
        rw [Editor.reload, hroot]
        simp only [hdevs, if_neg hi]
    | some devs =>
      by_cases hread : ∀ dev ∈ devs, Readable K dev
      · refine reload_answered hfits hd hreach hr hw (load_readable hfile hdevs hread _) rfl ?_ hgood
        rw [Editor.reload, hroot, if_pos rfl, funext₂ (flat_init _ _)]
        simp only [hdevs, if_pos hread]
      · obtain ⟨e, he⟩ := load_raises hfile hdevs hread d.session.config
        refine reload_raised hfits hd hreach hr hw he ?_
        rw [Editor.reload, hroot]
        simp only [hdevs, if_neg hread]

end Reload

end Commands

section Checks

variable {α β : Type}

def Refuses (x : Except Response α) : Prop := ∀ r, x = .error r → seen r = .refused

lemma refuses_ok (a : α) : Refuses (.ok a : Except Response α) := by
  rintro r ⟨⟩

lemma refuses_refuse (error : String) : Refuses (refuse error : Except Response α) := by
  rintro r ⟨⟩
  rfl

lemma refuses_raising (x : Except LogicError α) : Refuses (raising x) := by
  cases x with
  | ok a => exact refuses_ok a
  | error e =>
    rintro r ⟨⟩
    rfl

lemma Refuses.bind {x : Except Response α} {f : α → Except Response β} (hx : Refuses x)
    (hf : ∀ a, Refuses (f a)) : Refuses (x >>= f) := by
  cases x with
  | ok a => exact hf a
  | error r => exact fun r' h => hx r' (congrArg Except.error (Except.error.inj h))

lemma refuses_refuse_bind (error : String) (f : β → Except Response α) :
    Refuses ((refuse error : Except Response β) >>= f) := refuses_refuse error

lemma refuses_checkBind (body : Option Json) : Refuses (checkBind body) := by
  cases body with
  | none => exact refuses_refuse _
  | some json =>
    refine (refuses_raising _).bind fun has => ?_
    split
    · exact refuses_refuse_bind _ _
    · refine (refuses_raising _).bind fun device => ?_
      refine (refuses_raising _).bind fun key => ?_
      refine (refuses_raising _).bind fun command => ?_
      split
      · exact refuses_refuse_bind _ _
      · exact refuses_ok _

lemma refuses_checkUnbind (body : Option Json) : Refuses (checkUnbind body) := by
  cases body with
  | none => exact refuses_refuse _
  | some json =>
    refine (refuses_raising _).bind fun has => ?_
    split
    · exact refuses_refuse_bind _ _
    · refine (refuses_raising _).bind fun device => ?_
      refine (refuses_raising _).bind fun key => ?_
      split
      · exact refuses_refuse_bind _ _
      · exact refuses_ok _

end Checks

variable {op : EditorOp}

lemma seenAt_of_takes (hv : view call = some op)
    (h : Takes C K P S w op ((handle C K truncate P call).run w)) :
    Fits C P S (step C K truncate P w call).1 ∧
      SeenAt view seen (step C K truncate P) (Editor.step K P S) (World.editor C P) call w := by
  rw [SeenAt, hv]
  exact ⟨h.fits, h.editor, h.seen⟩

lemma seenAt_of_quiet (hv : view call = none)
    (h : ((handle C K truncate P call).run w).2.editor C P = w.editor C P ∧
      Fits C P S ((handle C K truncate P call).run w).2) :
    Fits C P S (step C K truncate P w call).1 ∧
      SeenAt view seen (step C K truncate P) (Editor.step K P S) (World.editor C P) call w := by
  rw [SeenAt, hv]
  exact ⟨h.2, h.1⟩

lemma step_command {request : CommandEndpoints.Request} (hreq : call.request = .command request)
    (hfits : Fits C P S w) (hasked : ∀ req, requestOf request = some req → Written C req)
    (hgood : Faithful C (step C K truncate P w call).1) :
    Fits C P S (step C K truncate P w call).1 ∧
      SeenAt view seen (step C K truncate P) (Editor.step K P S) (World.editor C P) call w := by
  rw [step, Prod.fst_swap, handle_command hreq] at hgood
  have hview : view call = view { call with request := .command request } := by rw [← hreq]
  cases request with
  | status =>
    refine seenAt_of_quiet hview ?_
    rw [handle_command hreq]
    exact ask_quiet hfits (hasked _ rfl) (indexable_ofMembers _) cmdOf_plainRequest
      fun s => ⟨_, serves_status⟩
  | devices =>
    refine seenAt_of_quiet hview ?_
    rw [handle_command hreq]
    exact ask_quiet hfits (hasked _ rfl) (indexable_ofMembers _) cmdOf_plainRequest
      fun s => ⟨_, serves_devices⟩
  | bindings =>
    refine seenAt_of_quiet hview ?_
    rw [handle_command hreq]
    exact ask_quiet hfits (hasked _ rfl) (indexable_ofMembers _) cmdOf_plainRequest
      fun s => ⟨_, serves_all_bindings⟩
  | bind body =>
    refine seenAt_of_takes hview ?_
    rw [handle_command hreq]
    rw [CommandEndpoints.handle] at hgood ⊢
    cases hcheck : checkBind body with
    | error refusal =>
      simp only [hcheck, mapperOp]
      exact takes_refuse hfits (refuses_checkBind body refusal hcheck)
    | ok fields =>
      obtain ⟨device, key, cmdline⟩ := fields
      simp only [hcheck, mapperOp] at hgood ⊢
      exact takes_mapper hfits (hasked _ (by rw [requestOf, hcheck]; rfl)) (indexable_ofMembers _)
        cmdOf_bindRequest (fun s => serves_bind) hgood
  | unbind body =>
    refine seenAt_of_takes hview ?_
    rw [handle_command hreq]
    rw [CommandEndpoints.handle] at hgood ⊢
    cases hcheck : checkUnbind body with
    | error refusal =>
      simp only [hcheck, mapperOp]
      exact takes_refuse hfits (refuses_checkUnbind body refusal hcheck)
    | ok fields =>
      obtain ⟨device, key⟩ := fields
      simp only [hcheck, mapperOp] at hgood ⊢
      exact takes_mapper hfits (hasked _ (by rw [requestOf, hcheck]; rfl)) (indexable_ofMembers _)
        cmdOf_unbindRequest (fun s => serves_unbind) hgood
  | reload =>
    refine seenAt_of_takes hview ?_
    rw [handle_command hreq]
    have hw : Written C (plainRequest "reload") := hasked _ rfl
    cases hr : (w.editor C P).reached P S with
    | none =>
      rw [CommandEndpoints.handle, ask_run (exchange_away hfits hr _)]
      exact ⟨hfits, by rw [Editor.step.eq_def]; simp only [hr],
        by rw [Editor.step.eq_def]; simp only [hr]; rfl⟩
    | some M =>
      obtain ⟨d, hd, hreach, -⟩ := reached_some hfits hr
      exact takes_reload hfits hd hreach hr hw hgood

lemma step_refines (hfits : Fits C P S w) (hasked : ∀ req, asked call = some req → Written C req)
    (hgood : Faithful C (step C K truncate P w call).1) :
    Fits C P S (step C K truncate P w call).1 ∧
      SeenAt view seen (step C K truncate P) (Editor.step K P S) (World.editor C P) call w := by
  have hview : view call = view { call with request := call.request } := rfl
  cases hreq : call.request with
  | command request =>
    refine step_command hreq hfits (fun req h => hasked req ?_) hgood
    rw [asked, hreq]
    exact h
  | getConfig =>
    have hstatus : Written C (plainRequest "status") := hasked _ (by rw [asked, hreq])
    have hrun : (handle C K truncate P call).run w = (getConfig C K P call).run w := by
      simp only [handle, hreq]
    rw [step, Prod.fst_swap, hrun] at hgood
    refine seenAt_of_takes (by rw [view, hreq]) ?_
    rw [hrun]
    exact takes_get hfits hstatus hgood
  | putConfig body =>
    have hstatus : Written C (plainRequest "status") := hasked _ (by rw [asked, hreq])
    have hrun : (handle C K truncate P call).run w = (putConfig C K P call body).run w := by
      simp only [handle, hreq]
    rw [step, Prod.fst_swap, hrun] at hgood
    refine seenAt_of_takes (by rw [view, hreq]) ?_
    rw [hrun]
    exact takes_put hfits hstatus body hgood
  | device request =>
    have hstatus : Written C (plainRequest "status") := hasked _ (by rw [asked, hreq])
    have hrun : (handle C K truncate P call).run w = (editDevice C K P call request).run w := by
      simp only [handle, hreq]
    rw [step, Prod.fst_swap, hrun] at hgood
    refine seenAt_of_takes (by rw [view, hreq]) ?_
    rw [hrun]
    exact takes_edit hfits hstatus request hgood

end Steps

section Runs

variable {C : Codec} {K : KeyCodes} {truncate : String → Option ℤ} {P : Places} {S : Setting} {w : World}
  {calls : List Call}

lemma run_refines (hfits : Fits C P S w)
    (hasked : ∀ call ∈ calls, ∀ req, asked call = some req → Written C req)
    (hgood : Faithful C (run (step C K truncate P) w calls).1) :
    Fits C P S (run (step C K truncate P) w calls).1 ∧
      (run (step C K truncate P) w calls).1.editor C P =
        (run (Editor.step K P S) (w.editor C P) (calls.filterMap view)).1 ∧
      seenOutputs view seen calls (run (step C K truncate P) w calls).2 =
        (run (Editor.step K P S) (w.editor C P) (calls.filterMap view)).2 := by
  have hback : ∀ call ∈ calls, ∀ w, Faithful C (step C K truncate P w call).1 → Faithful C w :=
    fun call _ w h => since_step.faithful h
  have hstep : ∀ call ∈ calls, ∀ w, Fits C P S w → Faithful C (step C K truncate P w call).1 →
      Fits C P S (step C K truncate P w call).1 ∧
        SeenAt view seen (step C K truncate P) (Editor.step K P S) (World.editor C P) call w :=
    fun call hcall w hfits hgood => step_refines hfits (hasked call hcall) hgood
  exact run_seen_inv hback hstep hfits hgood

end Runs

theorem bridge_refines_editor (C : Codec) (K : KeyCodes) (truncate : String → Option ℤ) (P : Places)
    (S : Setting) (w : World) (calls : List Call) (hfits : Fits C P S w)
    (hasked : ∀ call ∈ calls, ∀ req, asked call = some req → Written C req)
    (hgood : Faithful C (run (step C K truncate P) w calls).1) :
    ((run (step C K truncate P) w calls).1.editor C P,
        seenOutputs view seen calls (run (step C K truncate P) w calls).2) =
      run (Editor.step K P S) (w.editor C P) (calls.filterMap view) := by
  obtain ⟨-, heditor, hseen⟩ := run_refines hfits hasked hgood
  exact Prod.ext heditor hseen

def wildcardBlock : Json :=
  .object [("bindings", .object [("KEY_A", .string "xdotool key F13")]), ("id", .string "*")]

def wildcardDocument : Json := .object [("devices", .array [wildcardBlock])]

def wildcardText : Bytes := utf8 ("\n".intercalate [
  "\x7b",
  "  \"devices\" : ",
  "  [",
  "    \x7b",
  "      \"bindings\" : ",
  "      \x7b",
  "        \"KEY_A\" : \"xdotool key F13\"",
  "      \x7d,",
  "      \"id\" : \"*\"",
  "    \x7d",
  "  ]",
  "\x7d"])

def statusText (count : String) : Bytes := utf8 ("\x7b\"binding_count\":" ++ count ++
  ",\"config\":\"config/pointerforce.json\",\"device_count\":0,\"ok\":true,\"running\":true," ++
    "\"version\":\"0.2.0\"\x7d")

def statusOf (count : ℤ) : Json := okResponse [("version", .string version), ("running", .bool true),
  ("device_count", .int 0), ("binding_count", .int count), ("config", .string configPath)]

def bridgeTable : List (Bytes × Json) := [
  (utf8 "\x7b\"cmd\":\"status\"\x7d", plainRequest "status"),
  (utf8 "\x7b\"cmd\":\"reload\"\x7d", plainRequest "reload"),
  (okText, okResponse []), (statusText "0", statusOf 0), (statusText "1", statusOf 1),
  (wildcardText, wildcardDocument)]

def bridgeCodec : Codec :=
  { Codec.ofTable bridgeTable with fastWriter v := (Codec.ofTable bridgeTable).fastWriter v ++ [newline] }

def oneDirectory : Places where
  bridge path := if path = cStr configPath then "config" else "socket"
  daemon path := if path = cStr configPath then "config" else "socket"
  canonical path := some path

def freshWorld : World where
  disk _ := none
  daemon := some { session := {}, listening := "socket" }

def saveAndReload : List Call := [{ request := .putConfig (some wildcardDocument) },
  { request := .command .reload }, { request := .getConfig }]

lemma written_bridge : ∀ v ∈ (bridgeTable.map Prod.snd).take 5, Written bridgeCodec v := by
  simp only [bridgeTable, List.map_cons, List.map_nil, List.take_succ_cons, List.take_zero,
    List.forall_mem_cons]
  exact ⟨⟨_, rfl, by decide, by decide, rfl⟩,
    ⟨_, rfl, by decide, by decide, rfl⟩,
    ⟨_, rfl, by decide, by decide, rfl⟩,
    ⟨_, rfl, by decide, by decide, rfl⟩,
    ⟨_, rfl, by decide, by decide, rfl⟩, by simp⟩

lemma written_status : Written bridgeCodec (plainRequest "status") :=
  written_bridge _ (by simp [bridgeTable])

lemma written_reload : Written bridgeCodec (plainRequest "reload") :=
  written_bridge _ (by simp [bridgeTable])

lemma written_statusOf_zero : Written bridgeCodec (statusOf 0) :=
  written_bridge _ (by simp [bridgeTable])

lemma written_statusOf_one : Written bridgeCodec (statusOf 1) :=
  written_bridge _ (by simp [bridgeTable])

def savedWorld : World := (run (step bridgeCodec inputEventCodes (fun _ => none) oneDirectory)
  freshWorld saveAndReload).1

def afterExchange (w : World) (t : Session → Session) : World :=
  w.daemon.elim w fun d => w.after d (t (Session.fresh (w.served oneDirectory d)))

def reporting (s : Session) : Session := { s with sent := [statusReport inputEventCodes s] }

def reloaded (s : Session) : Session :=
  let config := installed inputEventCodes configPath wildcardDocument s.config
  { s with config, table := Mapper.init s.table config, sent := [okResponse []] }

def putWorld : World :=
  afterExchange (freshWorld.wrote bridgeCodec oneDirectory wildcardDocument 0) reporting

def reloadedWorld : World := afterExchange putWorld reloaded

lemma reporting_run (w : World) (d : Backend) (hd : w.daemon = some d)
    (hreach : w.reaches bridgeCodec oneDirectory d = true)
    (hpath : d.session.config.configPath = configPath) {v : Json}
    (hsent : statusReport inputEventCodes (Session.fresh (w.served oneDirectory d)) = v)
    (hv : Written bridgeCodec v) (call : Call) (j : Json) :
    (attachConfigWarning bridgeCodec inputEventCodes oneDirectory call j).run w =
      (.json j, afterExchange w reporting) := by
  have hrun : (attachConfigWarning bridgeCodec inputEventCodes oneDirectory call j).run w = _ :=
    attach_here hd hreach written_status
  have hpath' : (Session.fresh (w.served oneDirectory d)).config.configPath = configPath := hpath
  have hquiet : withWarning oneDirectory j (.ok configPath) = .json j := by
    simp [withWarning, daemonPathWarning, samePath]
  rw [hrun, afterExchange, hd, result_written (hsent.symm ▸ hv), reportedPath_status, hpath', hquiet]
  rfl

def putReply : Json := .ofMembers [("ok", .bool true), ("path", .string configPath)]

lemma wildcardBlock_readable : ∀ dev ∈ [wildcardBlock], Readable inputEventCodes dev := by
  decide

lemma wildcardDocument_restored : Restored bridgeCodec bridgeCodec.reader wildcardDocument where
  whole := by decide
  cut lost h := by
    have htext : bridgeCodec.streamWriter wildcardDocument = wildcardText := by decide
    have hcut : ∀ n < wildcardText.length, bridgeCodec.reader (wildcardText.take n) = none := by
      decide +kernel
    have hpos : 0 < wildcardText.length := by decide +kernel
    rw [htext]
    exact hcut _ (by omega)

def savedText : Bytes := leftOver (bridgeCodec.streamWriter wildcardDocument) 0

lemma savedText_read : (some savedText).bind bridgeCodec.reader = some wildcardDocument :=
  wildcardDocument_restored.leftOver_eq 0

lemma savedText_parsed : bridgeCodec.charReader savedText = some wildcardDocument := savedText_read

lemma wildcardDocument_socket : oneDirectory.bridge (sunPath (socketOf (some wildcardDocument))) =
    "socket" := by
  decide

lemma reaches_of_saved {w : World} {d : Backend} (hfile : w.file oneDirectory = some savedText)
    (hlistening : d.listening = "socket") : w.reaches bridgeCodec oneDirectory d = true := by
  rw [World.reaches, socketPath_eq, World.editor, hfile, Option.bind_some, savedText_parsed,
    wildcardDocument_socket, hlistening, beq_self_eq_true]

lemma statusReport_eq (s : Session) (count : ℕ) (hrunning : s.running = true)
    (hdevices : s.devices = []) (hpath : s.config.configPath = configPath)
    (hcount : (allBindings inputEventCodes s.table).length = count) :
    statusReport inputEventCodes s = statusOf count := by
  rw [statusReport, statusOf, hrunning, hdevices, hpath, hcount]
  rfl

lemma binding_counts : (allBindings inputEventCodes (∅ : Table)).length = 0 ∧
    (allBindings inputEventCodes
      (Mapper.init ∅ (installed inputEventCodes configPath wildcardDocument {}))).length = 1 :=
  ⟨by decide, by decide⟩

lemma put_step : step bridgeCodec inputEventCodes (fun _ => none) oneDirectory freshWorld
    { request := .putConfig (some wildcardDocument) } = (putWorld, .json putReply) := by
  have he : enclosed wildcardDocument = .ok wildcardDocument := rfl
  have hv : validate wildcardDocument = .ok () := rfl
  simp only [step, handle, putConfig, he, hv]
  rw [save_run rfl]
  let saved := freshWorld.wrote bridgeCodec oneDirectory wildcardDocument 0
  exact congrArg Prod.swap (reporting_run saved _ rfl (reaches_of_saved rfl rfl) rfl
    (statusReport_eq _ 0 rfl rfl rfl binding_counts.1) written_statusOf_zero _ _)

lemma reloaded_run (w : World) (d : Backend) (hd : w.daemon = some d)
    (hreach : w.reaches bridgeCodec oneDirectory d = true) (hconfig : d.session.config = {})
    (hfile : w.disk "config" = some savedText) :
    step bridgeCodec inputEventCodes (fun _ => none) oneDirectory w { request := .command .reload } =
      (afterExchange w reloaded, .json (done "config reloaded")) := by
  have hload : (load bridgeCodec inputEventCodes d.session.config.configPath
        (w.disk (oneDirectory.daemon (cStr d.session.config.configPath)))).run d.session.config =
      .ok true (installed inputEventCodes configPath wildcardDocument d.session.config) := by
    have hsame : w.disk (oneDirectory.daemon (cStr configPath)) = some savedText := hfile
    rw [hconfig]
    exact hsame ▸ load_loadable savedText_read ⟨[wildcardBlock], rfl, wildcardBlock_readable⟩ {}
  rw [step, handle_command rfl, CommandEndpoints.handle]
  rw [ask_run (exchange_here hd hreach written_reload (indexable_ofMembers _) cmdOf_plainRequest
    (serves_reload hload) rfl), afterExchange, hd]
  rfl

lemma reload_step : step bridgeCodec inputEventCodes (fun _ => none) oneDirectory putWorld
    { request := .command .reload } = (reloadedWorld, .json (done "config reloaded")) :=
  reloaded_run _ _ rfl (reaches_of_saved rfl rfl) rfl rfl

lemma savedWorld_run : savedWorld = (step bridgeCodec inputEventCodes (fun _ => none) oneDirectory
    reloadedWorld { request := .getConfig }).1 := by
  rw [savedWorld, saveAndReload, run_cons, put_step, run_cons, reload_step, run_cons, run_nil]

lemma savedWorld_eq : savedWorld = afterExchange reloadedWorld reporting := by
  have hfile : reloadedWorld.file oneDirectory = some savedText := rfl
  have hread : ConfigStore.read bridgeCodec configPath (reloadedWorld.file oneDirectory) =
      .ok wildcardDocument := by
    simp only [hfile, ConfigStore.read, savedText_parsed]
    rfl
  rw [savedWorld_run]
  simp only [step, Prod.fst_swap, handle, getConfig, StateT.run_bind, StateT.run_get, pure_bind, hread]
  rw [reporting_run reloadedWorld _ rfl (reaches_of_saved rfl rfl) rfl
    (statusReport_eq _ 1 rfl rfl rfl binding_counts.2) written_statusOf_one]

lemma savedWorld_history : savedWorld.said = [statusOf 0, okResponse [], statusOf 1] ∧
    savedWorld.saves = [wildcardDocument] := by
  rw [savedWorld_eq]
  refine ⟨?_, rfl⟩
  exact congrArg₂ (fun first last => [first, okResponse [], last])
    (statusReport_eq _ 0 rfl rfl rfl binding_counts.1) (statusReport_eq _ 1 rfl rfl rfl binding_counts.2)

def sharedSetting : Setting where
  daemonPath := configPath
  listening := "socket"
  ownFile := none

lemma freshWorld_fits : Fits bridgeCodec oneDirectory sharedSetting freshWorld where
  path := by
    rintro d ⟨⟩
    rfl
  listening := by
    rintro d ⟨⟩
    rfl
  ownFile _ := rfl
  parsers := rfl

lemma savedWorld_faithful : Faithful bridgeCodec savedWorld where
  said := by
    rw [savedWorld_history.1]
    intro v hv
    simp only [List.mem_cons, List.not_mem_nil, or_false] at hv
    rcases hv with rfl | rfl | rfl <;> exact written_bridge _ (by simp [bridgeTable])
  saves := by
    rw [savedWorld_history.2]
    intro cfg hc
    obtain rfl := List.mem_singleton.mp hc
    exact ⟨wildcardDocument_restored, wildcardDocument_restored.whole, wildcardDocument_restored.cut⟩

lemma saveAndReload_asked (call : Call) (h : call ∈ saveAndReload) (req : Json)
    (hreq : asked call = some req) : Written bridgeCodec req := by
  simp only [saveAndReload, List.mem_cons, List.not_mem_nil, or_false] at h
  rcases h with rfl | rfl | rfl <;> obtain rfl := Option.some.inj hreq <;>
    exact written_bridge _ (by simp [bridgeTable])

def wildcardBindings : BindingMap := lastBinding (keptDevices inputEventCodes [wildcardBlock])

lemma editor_runs : run (Editor.step inputEventCodes oneDirectory sharedSetting)
    (freshWorld.editor bridgeCodec oneDirectory) (saveAndReload.filterMap view) =
      ({ saved := some wildcardDocument, running := some wildcardBindings },
        [{ ok := true }, { ok := true }, { ok := true, config := some wildcardDocument }]) := by
  have hviews : saveAndReload.filterMap view =
    [.replace wildcardDocument true, .reload, .read] := rfl
  have hsame : sharedSetting.mismatched oneDirectory = false := by
    simp [Setting.mismatched, samePath, sharedSetting]
  have hshared : sharedSetting.shared oneDirectory = true := by
    simp [Setting.shared, oneDirectory, sharedSetting]
  have hdevs : devicesOf wildcardDocument = some [wildcardBlock] := rfl
  have hvalid : validate wildcardDocument = .ok () := rfl
  have hpath : oneDirectory.bridge (sunPath (socketOf (some wildcardDocument))) =
    sharedSetting.listening := wildcardDocument_socket
  have hobject : (some wildcardDocument).filter Json.isObject = some wildcardDocument := rfl
  simp only [hviews, run_cons, run_nil, Editor.step, Editor.save, Editor.reload, Editor.reached,
    Editor.warned, World.editor, freshWorld, hvalid, hsame, hshared, hpath, hdevs, hobject, if_true,
    Except.toOption, Option.map_some, Bool.false_and, if_pos wildcardBlock_readable]
  rfl

theorem saved_and_reloaded :
    savedWorld.editor bridgeCodec oneDirectory =
        { saved := some wildcardDocument, running := some wildcardBindings } ∧
      wildcardBindings wildcard 30 = some "xdotool key F13" ∧
      seenOutputs view seen saveAndReload (run (step bridgeCodec inputEventCodes (fun _ => none)
          oneDirectory) freshWorld saveAndReload).2 =
        [{ ok := true }, { ok := true }, { ok := true, config := some wildcardDocument }] := by
  have hrun := bridge_refines_editor bridgeCodec inputEventCodes (fun _ => none) oneDirectory
    sharedSetting freshWorld saveAndReload freshWorld_fits saveAndReload_asked savedWorld_faithful
  rw [editor_runs] at hrun
  obtain ⟨heditor, hseen⟩ := Prod.mk.inj hrun
  exact ⟨heditor, by decide, hseen⟩

end PointerForce.Bridge.ConfigEndpoints
