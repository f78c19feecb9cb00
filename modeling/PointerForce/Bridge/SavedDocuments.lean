import PointerForce.Bridge.EditorRefinement
import PointerForce.Bridge.HonouredConfigs
import PointerForce.Daemon.ConfigMeaning

/-! What a saved document becomes: the bindings that run after the next reload, if the answer to the
request that saved it has no warning. -/

namespace PointerForce.Bridge.ConfigEndpoints

open Foundations Foundations.Faults Foundations.FiniteMaps Foundations.Machines Daemon
  Daemon.ConfigLoader Daemon.ConfigMeaning Daemon.ControlServer Daemon.ControlSocket Daemon.Mapper
  Client.OneShot ConfigStore EditEffects CommandEndpoints

/-- The daemon's path leads to the same file from both working directories, as an absolute path does,
and paths with the same canonical form lead to the same file. -/
structure Places.Trusts (P : Places) (path : String) : Prop where
  nonempty : path ≠ ""
  agree : P.daemon (cStr path) = P.bridge (cStr path)
  canonical : ∀ a b file, P.canonical a = some file → P.canonical b = some file →
    P.bridge (cStr a) = P.bridge (cStr b)

def EditorOp.writes : EditorOp → Bool
  | .replace _ _ | .edit _ _ => true
  | _ => false

def Call.writes (call : Call) : Bool :=
  match call.request with
  | .putConfig _ | .device _ => true
  | _ => false

def Harmless (K : KeyCodes) (root : Json) : Prop :=
  root.Indexable ∧ ∀ devs, devicesOf root = some devs → ∀ dev ∈ devs, Readable K dev

-- what the daemon reads when it reloads
def Editor.document (P : Places) (S : Setting) (e : Editor) : Option Json :=
  if S.shared P then e.saved else S.ownFile

inductive Moves (K : KeyCodes) (P : Places) (S : Setting) (e : Editor) :
    EditorOp → Editor → Seen → Prop where
  | stays {op : EditorOp} {seen : Seen} (h : seen.ok = true → op = .read) : Moves K P S e op e seen
  | saves {op : EditorOp} {left : Option Json} {seen : Seen} (hop : op.writes = true)
      (hok : seen.ok = true) (hvalid : ∀ cfg, left = some cfg → ValidConfig cfg)
      (hwarned : seen.warned = { e with saved := left }.warned P S) :
      Moves K P S e op { e with saved := left } seen
  | binds {op : Op} {M : BindingMap} {seen : Seen} (hup : e.running.isSome) :
      Moves K P S e (.mapper op) { e with running := some M } seen
  | reloads {root : Json} {devs : List Json} {seen : Seen} (hup : (e.reached P S).isSome)
      (hroot : e.document P S = some root) (hdevs : devicesOf root = some devs) :
      Moves K P S e .reload { e with running := some (lastBinding (keptDevices K devs)) } seen
  | ends {root : Json} {seen : Seen} (hok : seen.ok = false) (hroot : e.document P S = some root)
      (hharm : ¬ Harmless K root) : Moves K P S e .reload { e with running := none } seen

section Editors

variable {K : KeyCodes} {P : Places} {S : Setting} {e e' : Editor} {op : EditorOp} {seen : Seen}
  {cfg : Json}

lemma valid_of_toOption {cfg' : Json} (h : (validate cfg').toOption.map (fun _ => cfg') = some cfg) :
    ValidConfig cfg := by
  obtain ⟨u, hv, rfl⟩ := Option.map_eq_some_iff.mp h
  cases hvalid : validate cfg' with
  | error error =>
    rw [hvalid] at hv
    cases hv
  | ok u => exact validate_ok_iff.mp hvalid

lemma valid_of_edit {request : DeviceEndpoints.Request} {saved : Option Json}
    (h : Editor.editDocument request saved = some cfg) : ValidConfig cfg := by
  simp only [Editor.editDocument, Option.bind_eq_bind, Option.bind_eq_some_iff] at h
  obtain ⟨-, -, -, -, cfg', -, h⟩ := h
  exact valid_of_toOption h

lemma save_moves {saved : Option Json} {whole : Bool} (hop : op.writes = true)
    (hvalid : ∀ cfg, saved = some cfg → ValidConfig cfg) :
    Moves K P S e op (e.save P S whole saved).1 (e.save P S whole saved).2 := by
  cases saved with
  | none => exact .stays fun h => absurd h (by simp [Editor.save, Seen.refused])
  | some cfg =>
    refine .saves hop rfl (fun cfg' h => ?_) rfl
    cases whole with
    | true => exact hvalid cfg' h
    | false => cases h

lemma reload_moves {M : BindingMap} (hr : e.reached P S = some M) :
    Moves K P S e .reload (e.reload K P S).1 (e.reload K P S).2 := by
  have hstays : Moves K P S e .reload e .refused :=
    .stays fun h => absurd h (by simp [Seen.refused])
  rw [Editor.reload]
  cases hroot : (if S.shared P then e.saved else S.ownFile) with
  | none => exact hstays
  | some root =>
    cases hdevs : devicesOf root with
    | none =>
      by_cases hi : root.Indexable
      · simp only [hdevs, if_pos hi]
        exact hstays
      · simp only [hdevs, if_neg hi]
        exact .ends rfl hroot fun h => hi h.1
    | some devs =>
      by_cases hread : ∀ dev ∈ devs, Readable K dev
      · simp only [hdevs, if_pos hread]
        exact .reloads (by rw [hr]; rfl) hroot hdevs
      · simp only [hdevs, if_neg hread]
        exact .ends rfl hroot fun h => hread (h.2 devs hdevs)

lemma step_moves : Moves K P S e op (Editor.step K P S e op).1 (Editor.step K P S e op).2 := by
  have hrefused : ∀ op, Moves K P S e op e .refused := fun op =>
    .stays fun h => absurd h (by simp [Seen.refused])
  cases op with
  | read => exact .stays fun _ => rfl
  | replace cfg whole => exact save_moves rfl fun cfg' h => valid_of_toOption h
  | edit request whole => exact save_moves rfl fun cfg' h => valid_of_edit h
  | refuse => exact hrefused _
  | mapper op =>
    cases hr : e.reached P S with
    | none =>
      simp only [Editor.step, hr]
      exact hrefused _
    | some M =>
      simp only [Editor.step, hr]
      refine .binds ?_
      rw [Editor.reached] at hr
      split at hr
      · rw [hr]
        rfl
      · cases hr
  | reload =>
    cases hr : e.reached P S with
    | none =>
      simp only [Editor.step, hr]
      exact hrefused _
    | some M =>
      simp only [Editor.step, hr]
      exact reload_moves hr

lemma Moves.running_isSome (h : Moves K P S e op e' seen) (hup : e'.running.isSome) :
    e.running.isSome := by
  cases h with
  | stays _ => exact hup
  | saves _ _ _ _ => exact hup
  | binds hbefore => exact hbefore
  | reloads hreached _ _ =>
    rw [Editor.reached] at hreached
    split at hreached
    · exact hreached
    · cases hreached
  | ends _ _ _ => cases hup

lemma Moves.saved_kept (h : Moves K P S e op e' seen) (hop : op.writes = true → seen.ok = false) :
    e'.saved = e.saved := by
  cases h with
  | saves hwrites hok _ _ => simp [hop hwrites] at hok
  | _ => rfl

lemma Moves.saved_of_ok (h : Moves K P S e op e' seen) (hop : op = .refuse ∨ op.writes = true)
    (hok : seen.ok = true) :
    (∀ cfg, e'.saved = some cfg → ValidConfig cfg) ∧ seen.warned = e'.warned P S := by
  cases h with
  | stays hread =>
    obtain rfl := hread hok
    rcases hop with hop | hop <;> cases hop
  | saves _ _ hvalid hwarned => exact ⟨hvalid, hwarned⟩
  | _ => rcases hop with hop | hop <;> cases hop

lemma Moves.reloaded (h : Moves K P S e .reload e' seen) (hok : seen.ok = true) :
    (e.reached P S).isSome ∧ ∃ root devs, e.document P S = some root ∧ devicesOf root = some devs ∧
      e'.running = some (lastBinding (keptDevices K devs)) := by
  cases h with
  | stays hread => cases hread hok
  | saves hop _ _ _ => cases hop
  | reloads hup hroot hdevs => exact ⟨hup, _, _, hroot, hdevs, rfl⟩
  | ends hfail _ _ => simp [hok] at hfail

lemma reached_before (hsaved : e'.saved = e.saved) (hup : e'.running.isSome → e.running.isSome)
    (h : (e'.reached P S).isSome) : (e.reached P S).isSome := by
  rw [Editor.reached, hsaved] at h
  rw [Editor.reached]
  split at h
  · next hpath =>
    rw [if_pos hpath]
    exact hup h
  · cases h

lemma elements_of_devices {devs : List Json} (h : devicesOf cfg = some devs) : elements cfg = devs := by
  rw [devicesOf] at h
  rw [elements, h]
  rfl

lemma namesFindStrings_valid {device : Json} {id : String} (h : ValidDevice device id) :
    NamesFindStrings device := by
  intro name hname
  cases hb : device.field "bindings" with
  | none => simp [bindingMembers, hb] at hname
  | some m =>
    obtain ⟨members, rfl, hs⟩ := h.bindings m hb
    have hm : bindingMembers device = members := by simp [bindingMembers, hb, Json.object?]
    rw [hm] at hname ⊢
    exact hs name hname

lemma lastBinding_valid {devs : List Json} (h : ValidConfig cfg) (hdevs : devicesOf cfg = some devs)
    (deviceId : String) (code : ℤ) :
    lastBinding (keptDevices K devs) deviceId code = own K (elements cfg) deviceId code := by
  have he := elements_of_devices hdevs
  rw [he]
  refine lastBinding_keptDevices_named K (fun dev hdev => ?_) deviceId code
  obtain ⟨id, hid⟩ := h.devices dev (he ▸ hdev)
  exact namesFindStrings_valid hid

lemma harmless_valid (h : ValidConfig cfg) : Harmless K cfg := by
  constructor
  · have ho := h.object
    cases cfg <;> simp_all [Json.isObject, Json.Indexable]
  · intro devs hdevs dev hdev
    obtain ⟨id, hid⟩ := h.devices dev (elements_of_devices hdevs ▸ hdev)
    exact HonouredConfigs.readable_valid K hid

def KeepsDaemon (K : KeyCodes) (P : Places) (S : Setting) (e : Editor) : Prop :=
  e.running.isSome ∧ ∀ root, e.document P S = some root → Harmless K root

lemma Moves.keepsDaemon (h : Moves K P S e op e' seen) (hkeeps : KeepsDaemon K P S e) :
    KeepsDaemon K P S e' := by
  obtain ⟨hup, hharmless⟩ := hkeeps
  cases h with
  | stays _ => exact ⟨hup, hharmless⟩
  | binds _ => exact ⟨rfl, hharmless⟩
  | reloads _ _ _ => exact ⟨rfl, hharmless⟩
  | ends _ hroot hharm => exact absurd (hharmless _ hroot) hharm
  | saves _ _ hvalid _ =>
    refine ⟨hup, fun root hroot => ?_⟩
    rw [Editor.document] at hroot
    split at hroot
    · exact harmless_valid (hvalid root hroot)
    · next hs => exact hharmless root (by rw [Editor.document, if_neg hs]; exact hroot)

end Editors

section Calls

variable {C : Codec} {K : KeyCodes} {truncate : String → Option ℤ} {P : Places} {S : Setting}
  {w w' : World} {call : Call} {r : Response} {op : EditorOp}

lemma faithful_before (hstep : step C K truncate P w call = (w', r)) (hgood : Faithful C w') :
    Faithful C w := by
  have hw : (step C K truncate P w call).1 = w' := congrArg Prod.fst hstep
  exact since_step.faithful (hw ▸ hgood)

lemma faithful_before_run {calls : List Call} {rs : List Response}
    (hrun : run (step C K truncate P) w calls = (w', rs)) (hgood : Faithful C w') : Faithful C w := by
  have hw : (run (step C K truncate P) w calls).1 = w' := congrArg Prod.fst hrun
  have hback : ∀ call ∈ calls, ∀ w, Faithful C (step C K truncate P w call).1 → Faithful C w :=
    fun call _ w h => since_step.faithful h
  exact run_back hback (hw ▸ hgood)

def CallMoves (C : Codec) (K : KeyCodes) (P : Places) (S : Setting) (w : World) (call : Call) (w' : World)
    (r : Response) : Prop :=
  (view call = none ∧ w'.editor C P = w.editor C P) ∨
    ∃ op, view call = some op ∧ Moves K P S (w.editor C P) op (w'.editor C P) (seen r)

lemma call_moves (hfits : Fits C P S w) (hasked : ∀ req, asked call = some req → Written C req)
    (hgood : Faithful C w') (hstep : step C K truncate P w call = (w', r)) :
    Fits C P S w' ∧ CallMoves C K P S w call w' r := by
  have hw : (step C K truncate P w call).1 = w' := by rw [hstep]
  have hr : (step C K truncate P w call).2 = r := by rw [hstep]
  subst hw hr
  obtain ⟨hfits', hat⟩ := step_refines hfits hasked hgood
  refine ⟨hfits', ?_⟩
  rw [SeenAt] at hat
  cases hv : view call with
  | none =>
    rw [hv] at hat
    exact .inl ⟨hv, hat⟩
  | some op =>
    rw [hv] at hat
    refine .inr ⟨op, hv, ?_⟩
    rw [hat.1, hat.2]
    exact step_moves

lemma view_write (hw : call.writes = true) :
    ∃ op, view call = some op ∧ (op = .refuse ∨ op.writes = true) := by
  rw [Call.writes] at hw
  rw [view]
  cases hreq : call.request with
  | command request => simp [hreq] at hw
  | getConfig => simp [hreq] at hw
  | putConfig body =>
    refine ⟨_, rfl, ?_⟩
    rw [writeView]
    split
    · exact .inl rfl
    · rw [putView]
      cases (body.bind fun json => (enclosed json).toOption) with
      | none => exact .inl rfl
      | some cfg => exact .inr rfl
  | device request =>
    refine ⟨_, rfl, ?_⟩
    rw [writeView]
    split
    · exact .inl rfl
    · exact .inr rfl

lemma view_other (hw : call.writes = false) (hv : view call = some op) : op.writes = false := by
  rw [Call.writes] at hw
  rw [view] at hv
  cases hreq : call.request with
  | putConfig body => simp [hreq] at hw
  | device request => simp [hreq] at hw
  | getConfig =>
    rw [hreq] at hv
    obtain rfl := Option.some.inj hv
    rfl
  | command request =>
    rw [hreq] at hv
    cases request with
    | bind body =>
      obtain rfl := Option.some.inj hv
      cases mapperOp (.bind body) <;> rfl
    | unbind body =>
      obtain rfl := Option.some.inj hv
      cases mapperOp (.unbind body) <;> rfl
    | reload =>
      obtain rfl := Option.some.inj hv
      rfl
    | _ => cases hv

lemma calls_keep {calls : List Call} {rs : List Response} (hfits : Fits C P S w)
    (hasked : ∀ call ∈ calls, ∀ req, asked call = some req → Written C req) (hgood : Faithful C w')
    (hrun : run (step C K truncate P) w calls = (w', rs))
    (hrefused : ∀ p ∈ calls.zip rs, p.1.writes = true → (seen p.2).ok = false) :
    Fits C P S w' ∧ (w'.editor C P).saved = (w.editor C P).saved ∧
      ((w'.editor C P).running.isSome → (w.editor C P).running.isSome) := by
  induction calls generalizing w rs with
  | nil =>
    obtain ⟨rfl, -⟩ := Prod.mk.inj hrun
    exact ⟨hfits, rfl, id⟩
  | cons call calls ih =>
    rw [run_cons] at hrun
    obtain ⟨hlast, hrs⟩ := Prod.mk.inj hrun
    subst hrs
    have hrest : run (step C K truncate P) (step C K truncate P w call).1 calls = (w', _) :=
      Prod.ext hlast rfl
    have hmid : Faithful C (step C K truncate P w call).1 := faithful_before_run hrest hgood
    obtain ⟨hfits', hmoves⟩ := call_moves hfits (hasked call List.mem_cons_self) hmid rfl
    obtain ⟨hend, hsaved, hup⟩ := ih hfits' (fun c hc => hasked c (List.mem_cons_of_mem call hc)) hrest
      fun p hp => hrefused p (List.mem_cons_of_mem _ hp)
    refine ⟨hend, hsaved.trans ?_, fun h => ?_⟩
    · rcases hmoves with ⟨-, he⟩ | ⟨op, hv, hm⟩
      · rw [he]
      · refine hm.saved_kept fun hop => ?_
        cases hw : call.writes with
        | true => exact hrefused _ List.mem_cons_self hw
        | false => simp [view_other hw hv] at hop
    · rcases hmoves with ⟨-, he⟩ | ⟨op, -, hm⟩
      · rw [← he]
        exact hup h
      · exact hm.running_isSome (hup h)

lemma CallMoves.saved_of_ok (hmoves : CallMoves C K P S w call w' r) (hw : call.writes = true)
    (hok : (seen r).ok = true) : (∀ cfg, (w'.editor C P).saved = some cfg → ValidConfig cfg) ∧
      (seen r).warned = (w'.editor C P).warned P S := by
  obtain ⟨op, hv, hop⟩ := view_write hw
  rcases hmoves with ⟨hnone, -⟩ | ⟨op', hv', hm⟩
  · rw [hv] at hnone
    cases hnone
  · obtain rfl := Option.some.inj (hv.symm.trans hv')
    exact hm.saved_of_ok hop hok

lemma CallMoves.reload (hmoves : CallMoves C K P S w call w' r)
    (hcommand : call.request = .command .reload) :
    Moves K P S (w.editor C P) .reload (w'.editor C P) (seen r) := by
  have hv : view call = some .reload := by rw [view, hcommand]
  rcases hmoves with ⟨hnone, -⟩ | ⟨op, hv', hm⟩
  · rw [hv] at hnone
    cases hnone
  · obtain rfl := Option.some.inj (hv.symm.trans hv')
    exact hm

end Calls

lemma Places.Trusts.shared {P : Places} {S : Setting} (h : P.Trusts S.daemonPath)
    (hs : S.mismatched P = false) : S.shared P = true := by
  have hsame : samePath P S.daemonPath configPath = true := by
    simpa [Setting.mismatched, h.nonempty] using hs
  rw [Setting.shared, beq_iff_eq, h.agree]
  rw [samePath, Bool.or_eq_true, beq_iff_eq] at hsame
  rcases hsame with he | hc
  · rw [he]
  · cases ha : P.canonical S.daemonPath with
    | none => simp [ha] at hc
    | some a =>
      cases hb : P.canonical configPath with
      | none => simp [ha, hb] at hc
      | some b =>
        rw [ha, hb] at hc
        obtain rfl := beq_iff_eq.mp hc
        exact h.canonical _ _ _ ha hb

/-- Between the two requests nothing else is saved; bindings may be changed and the daemon asked. -/
theorem saved_document_runs (C : Codec) (K : KeyCodes) (truncate : String → Option ℤ) (P : Places)
    (S : Setting) (w w₁ w₂ w₃ w₄ : World) (before middle : List Call) (save reload : Call)
    (rs rs' : List Response) (r r' : Response) (hfits : Fits C P S w) (htrust : P.Trusts S.daemonPath)
    (hasked : ∀ call ∈ before ++ save :: middle ++ [reload], ∀ req, asked call = some req → Written C req)
    (hbefore : run (step C K truncate P) w before = (w₁, rs))
    (hsave : step C K truncate P w₁ save = (w₂, r))
    (hmiddle : run (step C K truncate P) w₂ middle = (w₃, rs'))
    (hreload : step C K truncate P w₃ reload = (w₄, r'))
    (hgood : Faithful C w₄) (hwrites : save.writes = true) (hok : (seen r).ok = true)
    (hwarned : (seen r).warned = false)
    (hrefused : ∀ p ∈ middle.zip rs', p.1.writes = true → (seen p.2).ok = false)
    (hcommand : reload.request = .command .reload) (hdone : (seen r').ok = true) :
    ∃ cfg d, (w₂.editor C P).saved = some cfg ∧ validate cfg = .ok () ∧ w₄.daemon = some d ∧
      ∀ deviceId code, lookup d.session.table deviceId code =
        (own K (elements cfg) deviceId code).or (own K (elements cfg) wildcard code) := by
  simp only [List.append_assoc, List.cons_append, List.forall_mem_append, List.forall_mem_cons] at hasked
  obtain ⟨hasked₁, hasked₂, hasked₃, hasked₄, -⟩ := hasked
  have hgood₃ := faithful_before hreload hgood
  have hgood₂ := faithful_before_run hmiddle hgood₃
  have hgood₁ := faithful_before hsave hgood₂
  have hfits₁ : Fits C P S w₁ := by
    have hw : (run (step C K truncate P) w before).1 = w₁ := congrArg Prod.fst hbefore
    have hfits' := (run_refines (K := K) (P := P) hfits hasked₁ (hw.symm ▸ hgood₁)).1
    exact hw ▸ hfits'
  obtain ⟨hfits₂, hmoves₂⟩ := call_moves hfits₁ hasked₂ hgood₂ hsave
  obtain ⟨hvalid, hwarn⟩ := hmoves₂.saved_of_ok hwrites hok
  obtain ⟨hfits₃, hsaved₃, hup⟩ := calls_keep hfits₂ hasked₃ hgood₃ hmiddle hrefused
  obtain ⟨hfits₄, hmoves₄⟩ := call_moves hfits₃ hasked₄ hgood hreload
  obtain ⟨hreached₃, root, devs, hroot, hdevs, hrunning⟩ := (hmoves₄.reload hcommand).reloaded hdone
  have hreached₂ := reached_before hsaved₃ hup hreached₃
  have hshared : S.shared P = true := by
    apply htrust.shared
    rw [hwarned, Editor.warned, hreached₂, Bool.and_true] at hwarn
    exact hwarn.symm
  -- a cut document is not read, and no reload of it succeeds
  have hsaved₂ : (w₂.editor C P).saved = some root := by
    rw [Editor.document, if_pos hshared, hsaved₃] at hroot
    exact hroot
  have hvalid₂ := hvalid root hsaved₂
  obtain ⟨d, hd, hflat⟩ := Option.map_eq_some_iff.mp hrunning
  refine ⟨root, d, hsaved₂, validate_ok_iff.mpr hvalid₂, hd, fun deviceId code => ?_⟩
  rw [lookup_eq, hflat, lastBinding_valid hvalid₂ hdevs, lastBinding_valid hvalid₂ hdevs]

lemma oneDirectory_trusts : oneDirectory.Trusts configPath where
  nonempty := by decide
  agree := rfl
  canonical := by
    rintro a b file ⟨⟩ ⟨⟩
    rfl

lemma reloadedWorld_faithful : Faithful bridgeCodec reloadedWorld := by
  have hgood := savedWorld_faithful
  rw [savedWorld_run] at hgood
  exact since_step.faithful hgood

lemma written_or_reloaded {call : Call}
    (hc : call ∈ [] ++ ({ request := .putConfig (some wildcardDocument) } : Call) ::
      ([] ++ [{ request := .command .reload }])) : call ∈ saveAndReload := by
  rw [List.nil_append, List.nil_append, List.mem_cons, List.mem_singleton] at hc
  rcases hc with rfl | rfl <;> simp [saveAndReload]

theorem wildcard_runs : ∃ d, reloadedWorld.daemon = some d ∧
    lookup d.session.table "macro_pad" 30 = some "xdotool key F13" := by
  obtain ⟨cfg, d, hsaved, -, hd, hlookup⟩ := saved_document_runs bridgeCodec inputEventCodes
    (fun _ => none) oneDirectory sharedSetting freshWorld freshWorld putWorld putWorld reloadedWorld []
    [] { request := .putConfig (some wildcardDocument) } { request := .command .reload } [] []
    (.json putReply) (.json (done "config reloaded")) freshWorld_fits oneDirectory_trusts
    (fun call hc => saveAndReload_asked call (written_or_reloaded hc)) rfl put_step rfl reload_step
    reloadedWorld_faithful rfl rfl rfl (by simp) rfl rfl
  have hfile : putWorld.file oneDirectory = some savedText := rfl
  have hread : (putWorld.editor bridgeCodec oneDirectory).saved = some wildcardDocument := by
    rw [World.editor, hfile, Option.bind_some, savedText_parsed]
  obtain rfl := Option.some.inj (hread.symm.trans hsaved)
  refine ⟨d, hd, ?_⟩
  rw [hlookup]
  decide

section BlindSpot

variable {C : Codec} {K : KeyCodes} {truncate : String → Option ℤ} {P : Places} {S : Setting}
  {w w' : World}

lemma Editor.step_unwarned (hsame : S.mismatched P = false) (e : Editor) (op : EditorOp) :
    (Editor.step K P S e op).2.warned = false := by
  have hquiet : ∀ e : Editor, e.warned P S = false := fun e => by rw [Editor.warned, hsame]; rfl
  have hsave : ∀ whole saved, (e.save P S whole saved).2.warned = false := by
    intro whole saved
    cases saved with
    | none => rfl
    | some cfg => exact hquiet _
  cases op with
  | read =>
    simp only [Editor.step]
    split
    · exact hquiet e
    · rfl
  | replace cfg whole => exact hsave whole _
  | edit request whole => exact hsave whole _
  | mapper op =>
    simp only [Editor.step]
    split <;> rfl
  | reload =>
    simp only [Editor.step, Editor.reload]
    repeat' split
    all_goals rfl
  | refuse => rfl

/-- The blind spot of the check: as long as the two paths look the same from the bridge's directory no
answer warns. -/
theorem same_path_unwarned (hsame : samePath P S.daemonPath configPath = true) (calls : List Call)
    (hfits : Fits C P S w) (hasked : ∀ call ∈ calls, ∀ req, asked call = some req → Written C req)
    (hgood : Faithful C (run (step C K truncate P) w calls).1) :
    ∀ s ∈ seenOutputs view seen calls (run (step C K truncate P) w calls).2, s.warned = false := by
  have hmatched : S.mismatched P = false := by rw [Setting.mismatched, hsame, Bool.not_true, Bool.and_false]
  obtain ⟨-, -, hseen⟩ := run_refines hfits hasked hgood
  rw [hseen]
  exact run_outputs (Editor.step_unwarned hmatched) _

/-- A daemon that has been started in another directory reloads a file of its own all the same. -/
theorem other_file_reloaded {reload : Call} {r : Response} (hother : S.shared P = false)
    (hfits : Fits C P S w) (hasked : ∀ req, asked reload = some req → Written C req)
    (hgood : Faithful C w') (hreload : step C K truncate P w reload = (w', r))
    (hcommand : reload.request = .command .reload) (hdone : (seen r).ok = true) :
    ∃ devs, S.ownFile.bind devicesOf = some devs ∧
      (w'.editor C P).running = some (lastBinding (keptDevices K devs)) := by
  obtain ⟨-, hmoves⟩ := call_moves hfits hasked hgood hreload
  obtain ⟨-, root, devs, hroot, hdevs, hrunning⟩ := (hmoves.reload hcommand).reloaded hdone
  rw [Editor.document, hother] at hroot
  refine ⟨devs, ?_, hrunning⟩
  rw [if_neg Bool.false_ne_true] at hroot
  rw [hroot]
  exact hdevs

end BlindSpot

theorem bridge_keeps_daemon (C : Codec) (K : KeyCodes) (truncate : String → Option ℤ) (P : Places)
    (S : Setting) (w : World) (calls : List Call) (hfits : Fits C P S w)
    (hasked : ∀ call ∈ calls, ∀ req, asked call = some req → Written C req)
    (hgood : Faithful C (run (step C K truncate P) w calls).1) (hup : w.daemon.isSome)
    (hharmless : ∀ root, (w.editor C P).document P S = some root → Harmless K root) :
    (run (step C K truncate P) w calls).1.daemon.isSome := by
  obtain ⟨-, heditor, -⟩ := run_refines hfits hasked hgood
  have hstart : KeepsDaemon K P S (w.editor C P) :=
    ⟨(Option.isSome_map).trans hup, hharmless⟩
  have hend : KeepsDaemon K P S ((run (step C K truncate P) w calls).1.editor C P) := by
    rw [heditor]
    exact run_invariant (fun e op h => step_moves.keepsDaemon h) hstart _
  exact Option.isSome_map.symm.trans hend.1

theorem daemon_is_kept : savedWorld.daemon.isSome := by
  rw [savedWorld]
  exact bridge_keeps_daemon bridgeCodec inputEventCodes (fun _ => none) oneDirectory sharedSetting freshWorld
    saveAndReload freshWorld_fits saveAndReload_asked savedWorld_faithful rfl (by rintro root ⟨⟩)

end PointerForce.Bridge.ConfigEndpoints
