import PointerForce.Daemon.ControlServer

/-! Which request lines the control server survives. An exception that leaves the client's thread
ends the daemon, so a line is harmless only when every access that its command makes succeeds. -/

namespace PointerForce.Daemon.ClientSafety

open Foundations Foundations.Faults ConfigLoader ControlServer

def IsResponse (v : Json) : Prop := ∃ b, v.field "ok" = some (.bool b)

def Answers (x : Handler Unit) (s : Session) : Prop :=
  ∃ s' v, x.run s = .ok () s' ∧ s'.sent = s.sent ++ [v] ∧ IsResponse v

def Raises (x : Handler Unit) (s : Session) : Prop := ∃ e s', x.run s = .error e s'

def AnswersUnless (fault : Prop) (x : Handler Unit) (s : Session) : Prop :=
  (fault → Raises x s) ∧ (¬ fault → Answers x s)

def cmdOf (req : Json) : Option String := (req.field "cmd").bind Json.text?

def Unanswered (C : Codec) (line : Bytes) : Prop :=
  line = [] ∨ ∃ req, C.reader line = some req ∧ cmdOf req = some "events"

def Processed (C : Codec) (K : KeyCodes) (line : Bytes) (s : Session) : Prop :=
  ¬ Raises (handleLine C K line) s ∧ (¬ Unanswered C line → Answers (handleLine C K line) s)

def textOf (req : Json) (name : String) : Option String := ((req.field name).getD .null).text?

def Misshapen (req : Json) (names : List String) : Prop :=
  (∀ name ∈ names, (req.field name).isSome) ∧ ∃ name ∈ names, textOf req name = none

def LoadReturns (C : Codec) (K : KeyCodes) (file : Option Bytes) : Prop :=
  ∀ root, file.bind C.reader = some root →
    root.Indexable ∧ ∀ dev ∈ (devicesOf root).getD [], Readable K dev

def SafeCommand (C : Codec) (K : KeyCodes) (s : Session) (req : Json) (cmd : String) : Prop :=
  (cmd = "bindings" → ¬ Misshapen req ["device"]) ∧
  (cmd = "bind" → ¬ Misshapen req ["device", "key", "command"]) ∧
  (cmd = "unbind" → ¬ Misshapen req ["device", "key"]) ∧
  (cmd = "reload" → LoadReturns C K (s.files s.config.configPath))

/-- The request is null or an object, its command is not an array or an object, and the command
finds its fields, or the configuration file, in a shape that can be read. -/
def SafeRequest (C : Codec) (K : KeyCodes) (s : Session) (req : Json) : Prop :=
  req.Indexable ∧ ∀ v, req.field "cmd" = some v → ∃ cmd, v.text? = some cmd ∧ SafeCommand C K s req cmd

def SafeLine (C : Codec) (K : KeyCodes) (s : Session) (line : Bytes) : Prop :=
  line = [] ∨ ∀ req, C.reader line = some req → SafeRequest C K s req

section Responses

lemma isResponse_ok (payload : List (String × Json)) : IsResponse (okResponse payload) :=
  ⟨true, by simp [okResponse, Json.field_set]⟩

lemma isResponse_err (msg : String) : IsResponse (errResponse msg) :=
  ⟨false, by simp [errResponse, Json.ofMembers, Json.field_set]⟩

lemma answers_sendStr {v : Json} (h : IsResponse v) (s : Session) : Answers (sendStr v) s :=
  ⟨_, v, rfl, rfl, h⟩

lemma Answers.not_raises {x : Handler Unit} {s : Session} (h : Answers x s) : ¬ Raises x s := by
  obtain ⟨s', v, hx, -⟩ := h
  rintro ⟨e, t, he⟩
  rw [hx] at he
  cases he

lemma AnswersUnless.answers {x : Handler Unit} {s : Session} (h : Answers x s) :
    AnswersUnless False x s := ⟨False.elim, fun _ => h⟩

lemma AnswersUnless.raises {x : Handler Unit} {s : Session} (h : Raises x s) :
    AnswersUnless True x s := ⟨fun _ => h, fun hn => absurd trivial hn⟩

lemma AnswersUnless.congr {p q : Prop} {x : Handler Unit} {s : Session} (h : AnswersUnless p x s)
    (hpq : p ↔ q) : AnswersUnless q x s := propext hpq ▸ h

lemma AnswersUnless.of_run {p : Prop} {x y : Handler Unit} {s : Session} (h : AnswersUnless p y s)
    (hxy : x.run s = y.run s) : AnswersUnless p x s := by
  simpa only [AnswersUnless, Answers, Raises, hxy] using h

lemma answers_ite {ok : Bool} (msg : String) (s : Session) :
    Answers (sendStr (if ok then okResponse [] else errResponse msg)) s := by
  apply answers_sendStr
  cases ok
  · exact isResponse_err msg
  · exact isResponse_ok []

end Responses

section Fields

variable {req : Json} (hi : req.Indexable)

include hi

lemma text_some {name t : String} (h : textOf req name = some t) : text req name = .ok t := by
  rw [text, Json.get_indexable hi, ok_bind, Json.asString_some h]

lemma text_none {name : String} (h : textOf req name = none) :
    text req name = .error .notConvertible := by
  rw [text, Json.get_indexable hi, ok_bind, Json.asString_none h]

lemma hasFields_indexable (names : List String) :
    hasFields req names = .ok (names.all fun name => (req.field name).isSome) := by
  induction names with
  | nil => rfl
  | cons name names ih =>
    rw [hasFields] at ih ⊢
    rw [List.allM, Json.isMember_indexable hi, ok_bind, ih, List.all_cons]
    cases (req.field name).isSome <;> rfl

lemma answersUnless_text {fault : Prop} (name : String) {f : String → Handler Unit} {s : Session}
    (h : ∀ t, AnswersUnless fault (f t) s) :
    AnswersUnless (textOf req name = none ∨ fault) (do f (← liftM (text req name))) s := by
  cases ht : textOf req name with
  | none =>
    simp only [AnswersUnless, Raises, EStateM.run_bind, run_lift_error (text_none hi ht)]
    exact ⟨fun _ => ⟨_, _, rfl⟩, fun h => absurd (.inl trivial) h⟩
  | some t =>
    simp only [AnswersUnless, Raises, Answers, EStateM.run_bind, run_lift_ok (text_some hi ht),
      reduceCtorEq, false_or]
    exact h t

lemma answersUnless_hasFields {fault : Prop} (names : List String) (msg : String)
    {x : Handler Unit} {s : Session} (h : AnswersUnless fault x s) :
    AnswersUnless ((∀ name ∈ names, (req.field name).isSome) ∧ fault)
      (do if !(← hasFields req names) then sendStr (errResponse msg) else x) s := by
  simp only [AnswersUnless, Raises, Answers, EStateM.run_bind, run_lift_ok (hasFields_indexable hi _),
    ← List.all_eq_true]
  cases names.all fun name => (req.field name).isSome with
  | false => exact ⟨by simp, fun _ => answers_sendStr (isResponse_err msg) s⟩
  | true =>
    simp only [true_and, Bool.not_true, Bool.false_eq_true, if_false]
    exact h

lemma answersUnless_isMember {fault : Prop} (name : String) {x y : Handler Unit} {s : Session}
    (hx : AnswersUnless fault x s) (hy : Answers y s) :
    AnswersUnless ((req.field name).isSome ∧ fault)
      (do if ← req.isMember name then x else y) s := by
  simp only [AnswersUnless, Raises, Answers, EStateM.run_bind,
    run_lift_ok (Json.isMember_indexable hi _)]
  cases (req.field name).isSome with
  | false => exact ⟨by simp, fun _ => hy⟩
  | true =>
    simp only [true_and, if_true]
    exact hx

end Fields

section Commands

variable (C : Codec) (K : KeyCodes) {req : Json} (hi : req.Indexable) (s : Session)

lemma status_answers : Answers (status K) s := ⟨_, _, rfl, rfl, isResponse_ok _⟩

lemma devices_answers : Answers devices s := ⟨_, _, rfl, rfl, isResponse_ok _⟩

include hi

lemma bindings_answers : AnswersUnless (Misshapen req ["device"]) (bindings K req) s := by
  refine .congr (answersUnless_isMember hi "device" (answersUnless_text hi "device" fun filter =>
    .answers ?_) ?_) (by simp [Misshapen])
  · exact ⟨_, _, rfl, rfl, isResponse_ok _⟩
  · exact ⟨_, _, rfl, rfl, isResponse_ok _⟩

lemma bind_answers :
    AnswersUnless (Misshapen req ["device", "key", "command"]) (ControlServer.bind K req) s := by
  refine .congr (answersUnless_hasFields hi _ _ <| answersUnless_text hi "device" fun device =>
    answersUnless_text hi "key" fun key => answersUnless_text hi "command" fun command =>
      .answers ?_) (by simp [Misshapen])
  exact answers_ite "Unknown key name" { s with table := _ }

lemma unbind_answers : AnswersUnless (Misshapen req ["device", "key"]) (unbind K req) s := by
  refine .congr (answersUnless_hasFields hi _ _ <| answersUnless_text hi "device" fun device =>
    answersUnless_text hi "key" fun key => .answers ?_) (by simp [Misshapen])
  exact answers_ite "Binding not found" { s with table := _ }

omit hi

lemma load_returns (path : String) {file : Option Bytes} (h : LoadReturns C K file) (g : Config) :
    ∃ ok g', (load C K path file).run g = .ok ok g' := by
  cases hf : file.bind C.reader with
  | none => exact ⟨false, g, load_unparsed hf g⟩
  | some root =>
    obtain ⟨hi, hr⟩ := h root hf
    cases hd : devicesOf root with
    | none => exact ⟨_, _, load_without_devices hf hi hd g⟩
    | some devs => exact ⟨_, _, load_readable hf hd (by simpa [hd] using hr) g⟩

lemma load_faults (path : String) {file : Option Bytes} (h : ¬ LoadReturns C K file) (g : Config) :
    ∃ e g', (load C K path file).run g = .error e g' := by
  simp only [LoadReturns, not_forall] at h
  obtain ⟨root, hf, hr⟩ := h
  by_cases hi : root.Indexable
  · cases hd : devicesOf root with
    | none => simp [hi, hd] at hr
    | some devs =>
      obtain ⟨e, he⟩ := @load_raises C K path file _ _ hf hd (fun h => hr ⟨hi, by simpa [hd] using h⟩) g
      exact ⟨e, _, he⟩
  · exact ⟨_, _, load_not_indexable hf hi g⟩

lemma reload_answers :
    AnswersUnless (¬ LoadReturns C K (s.files s.config.configPath)) (reload C K) s := by
  simp only [AnswersUnless, Raises, Answers, reload, EStateM.run_bind, EStateM.run_get, not_not]
  constructor
  · intro h
    obtain ⟨e, g, he⟩ := load_faults C K s.config.configPath h s.config
    simp only [onConfig_error he]
    exact ⟨_, _, rfl⟩
  · intro h
    obtain ⟨ok, g, hok⟩ := load_returns C K s.config.configPath h s.config
    simp only [onConfig_ok hok]
    cases ok with
    | false => exact answers_ite _ { s with config := g }
    | true => exact answers_ite _ { s with config := g, table := Mapper.init s.table g }

lemma command_answers (hi : req.Indexable) {cmd : String} (he : cmd ≠ "events") :
    AnswersUnless (¬ SafeCommand C K s req cmd) (command C K cmd req) s := by
  rw [command]
  split_ifs with h1 h2 h3 h4 h5 h6 <;> first | subst cmd | skip
  · exact .congr (.answers (status_answers K s)) (by simp [SafeCommand])
  · exact .congr (.answers (devices_answers s)) (by simp [SafeCommand])
  · exact .congr (bindings_answers K hi s) (by simp [SafeCommand])
  · exact .congr (bind_answers K hi s) (by simp [SafeCommand])
  · exact .congr (unbind_answers K hi s) (by simp [SafeCommand])
  · exact .congr (reload_answers C K s) (by simp [SafeCommand])
  · exact .congr (.answers (answers_sendStr (isResponse_err _) s)) (by simp [SafeCommand, *])

end Commands

section Lines

variable (C : Codec) (K : KeyCodes) (s : Session)

lemma handleLine_request {line : Bytes} {req : Json} (hl : line ≠ []) (hr : C.reader line = some req) :
    handleLine C K line = (do
      if !(← req.isMember "cmd") then sendStr (errResponse "Invalid JSON or missing 'cmd'")
      else command C K (← text req "cmd") req) := by
  simp [handleLine, hl, hr]

lemma handleLine_unparsed {line : Bytes} (hl : line ≠ []) (hr : C.reader line = none) :
    handleLine C K line = sendStr (errResponse "Invalid JSON or missing 'cmd'") := by
  simp [handleLine, hl, hr]

variable {C}

lemma safeLine_iff {line : Bytes} {req : Json} (hl : line ≠ []) (hr : C.reader line = some req) :
    SafeLine C K s line ↔ SafeRequest C K s req := by
  simp [SafeLine, hl, hr]

lemma handleLine_not_indexable {line : Bytes} {req : Json} (hl : line ≠ [])
    (hr : C.reader line = some req) (hi : ¬ req.Indexable) : Raises (handleLine C K line) s := by
  have hm : req.isMember "cmd" = .error .notAnObject := by
    rw [Json.isMember, Json.find_not_indexable hi, error_bind]
  rw [handleLine_request C K hl hr]
  simp only [Raises, EStateM.run_bind, run_lift_error hm]
  exact ⟨_, _, rfl⟩

lemma handleLine_without_cmd {line : Bytes} {req : Json} (hl : line ≠ [])
    (hr : C.reader line = some req) (hi : req.Indexable) (hv : req.field "cmd" = none) :
    (handleLine C K line).run s =
      (sendStr (errResponse "Invalid JSON or missing 'cmd'")).run s := by
  simp only [handleLine_request C K hl hr, EStateM.run_bind, hv, Option.isSome_none, Bool.not_false,
    run_lift_ok (Json.isMember_indexable hi _), if_true]

lemma handleLine_with_cmd {line : Bytes} {req v : Json} (hl : line ≠ [])
    (hr : C.reader line = some req) (hi : req.Indexable) (hv : req.field "cmd" = some v) :
    (handleLine C K line).run s = (do command C K (← liftM (text req "cmd")) req : Handler Unit).run s := by
  simp only [handleLine_request C K hl hr, EStateM.run_bind, hv, Option.isSome_some, Bool.not_true,
    run_lift_ok (Json.isMember_indexable hi _), Bool.false_eq_true, if_false]

lemma handleLine_command {line : Bytes} {req : Json} {cmd : String} (hl : line ≠ [])
    (hr : C.reader line = some req) (hi : req.Indexable) (hc : cmdOf req = some cmd) :
    (handleLine C K line).run s = (command C K cmd req).run s := by
  obtain ⟨v, hv, ht⟩ := Option.bind_eq_some_iff.mp hc
  have hx : text req "cmd" = .ok cmd := text_some hi (by rw [textOf, hv, Option.getD_some, ht])
  rw [handleLine_with_cmd K s hl hr hi hv, EStateM.run_bind, run_lift_ok hx]

lemma handleLine_answers {line : Bytes} (h : ¬ Unanswered C line) :
    AnswersUnless (¬ SafeLine C K s line) (handleLine C K line) s := by
  have hl : line ≠ [] := fun hl => h (.inl hl)
  cases hr : C.reader line with
  | none =>
    rw [handleLine_unparsed C K hl hr]
    exact .congr (.answers (answers_sendStr (isResponse_err _) s)) (by simp [SafeLine, hr])
  | some req =>
    rw [safeLine_iff K s hl hr]
    by_cases hi : req.Indexable
    · cases hv : req.field "cmd" with
      | none =>
        refine .of_run ?_ (handleLine_without_cmd K s hl hr hi hv)
        exact .congr (.answers (answers_sendStr (isResponse_err _) s)) (by simp [SafeRequest, hi, hv])
      | some v =>
        cases ht : v.text? with
        | none =>
          have hx : text req "cmd" = .error .notConvertible :=
            text_none hi (by rw [textOf, hv, Option.getD_some, ht])
          have hraise : Raises (handleLine C K line) s := ⟨.notConvertible, s, by
            rw [handleLine_with_cmd K s hl hr hi hv, EStateM.run_bind, run_lift_error hx]⟩
          exact .congr (.raises hraise) (by simp [SafeRequest, hi, hv, ht])
        | some cmd =>
          have hc : cmdOf req = some cmd := by rw [cmdOf, hv, Option.bind_some, ht]
          have he : cmd ≠ "events" := fun he => h (.inr ⟨req, hr, he ▸ hc⟩)
          refine .of_run ?_ (handleLine_command K s hl hr hi hc)
          exact .congr (command_answers C K s hi he) (by simp [SafeRequest, hi, hv, ht])
    · exact ⟨fun _ => handleLine_not_indexable K s hl hr hi, fun hs => absurd (fun hs => hi hs.1) hs⟩

lemma handleLine_unanswered {line : Bytes} (h : Unanswered C line) :
    ¬ Raises (handleLine C K line) s ∧ SafeLine C K s line := by
  by_cases hl : line = []
  · subst line
    refine ⟨?_, .inl rfl⟩
    rintro ⟨e, t, he⟩
    cases he
  · obtain ⟨req, hr, hc⟩ := h.resolve_left hl
    obtain ⟨v, hv, ht⟩ := Option.bind_eq_some_iff.mp hc
    have hi : req.Indexable := by cases req <;> simp_all [Json.field, Json.object?, Json.Indexable]
    constructor
    · rintro ⟨e, t, he⟩
      rw [handleLine_command K s hl hr hi hc] at he
      cases he
    · rw [safeLine_iff K s hl hr]
      simp [SafeRequest, hi, hv, ht, SafeCommand]

lemma raises_iff (line : Bytes) : Raises (handleLine C K line) s ↔ ¬ SafeLine C K s line := by
  by_cases h : Unanswered C line
  · obtain ⟨hr, hs⟩ := handleLine_unanswered K s h
    exact iff_of_false hr (not_not.mpr hs)
  · obtain ⟨hr, ha⟩ := handleLine_answers K s h
    exact ⟨fun hx hs => (ha (not_not.mpr hs)).not_raises hx, hr⟩

variable (C)

theorem processed_iff_safeLine (line : Bytes) : Processed C K line s ↔ SafeLine C K s line := by
  by_cases h : Unanswered C line
  · obtain ⟨hr, hs⟩ := handleLine_unanswered K s h
    simp [Processed, h, hr, hs]
  · obtain ⟨hr, ha⟩ := handleLine_answers K s h
    constructor
    · intro hp
      by_contra hs
      exact hp.1 (hr hs)
    · intro hs
      have hx := ha (not_not.mpr hs)
      exact ⟨hx.not_raises, fun _ => hx⟩

end Lines

def five : Bytes := [0x35]

theorem number_line_raises :
    ¬ Processed (.ofTable [(five, .int 5)]) inputEventCodes five {} := by
  intro h
  exact h.1 ⟨.notAnObject, {}, rfl⟩

theorem load_returns_iff (C : Codec) (K : KeyCodes) (path : String) (file : Option Bytes)
    (g : Config) :
    (∃ ok g', (load C K path file).run g = .ok ok g') ↔ LoadReturns C K file := by
  constructor
  · rintro ⟨ok, g', hok⟩
    by_contra hno
    obtain ⟨e, g'', he⟩ := load_faults C K path hno g
    rw [he] at hok
    cases hok
  · exact fun h => load_returns C K path h g

def listCommand : Json :=
  .object [("devices", .array [.object [("id", .string "pad"), ("path", .string "/dev/input/event3"),
    ("bindings", .object [("KEY_A", .array [.string "firefox"])])]])]

def listCommandFile : Bytes :=
  utf8 ("\x7b\"devices\":[\x7b\"id\":\"pad\",\"path\":\"/dev/input/event3\"," ++
    "\"bindings\":\x7b\"KEY_A\":[\"firefox\"]\x7d\x7d]\x7d")

theorem list_command_raises : ¬ ∃ ok g', (load (.ofTable [(listCommandFile, listCommand)])
    inputEventCodes "config/pointerforce.json" (some listCommandFile)).run {} = .ok ok g' := by
  have hread : (some listCommandFile).bind (Codec.ofTable [(listCommandFile, listCommand)]).reader =
      some listCommand := by simp [Codec.ofTable]
  have hfault : ¬ LoadReturns (.ofTable [(listCommandFile, listCommand)]) inputEventCodes
      (some listCommandFile) := by
    intro h
    have hr := (h listCommand hread).2 _ List.mem_cons_self
    exact absurd hr (by decide)
  obtain ⟨e, g, he⟩ := load_faults _ _ "config/pointerforce.json" hfault {}
  rintro ⟨ok, g', hok⟩
  rw [he] at hok
  cases hok

end PointerForce.Daemon.ClientSafety
