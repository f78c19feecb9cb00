import PointerForce.Daemon.ClientSafety
import PointerForce.Foundations.Lines

/-! A connection of the control server: the bytes of its reads are cut into request lines, which are
processed up to the first that asks for the event stream. -/

namespace PointerForce.Daemon.RequestFraming

open Foundations Foundations.Faults Foundations.Lines ConfigLoader ControlServer ClientSafety

variable (C : Codec) (K : KeyCodes)

/-- `reads` are the bytes of the coming reads, until one fails or finds the end of the stream. -/
def handleClient (reads : List Bytes) (buf : Bytes) : Handler Unit :=
  match _h : cut isNewline buf with
  | none =>
    match reads with
    | [] | [] :: _ => return
    | tmp :: reads => handleClient reads (buf ++ tmp)
  | some (line, buf) => do
    handleLine C K line.text
    if (← get).streaming then return
    handleClient reads buf
termination_by (reads.length, buf.length)
decreasing_by
  · exact Prod.Lex.left _ _ (Nat.lt_succ_self _)
  · exact Prod.Lex.right _ (length_cut isNewline _h)

def connect : Handler Unit := modify fun s => { s with sent := [], streaming := false }

def connection (reads : List Bytes) : Handler Unit := do
  connect
  handleClient C K reads []

def asksEvents (line : Bytes) : Bool := (C.reader line).bind cmdOf == some "events"

def throughEvents : List Bytes → List Bytes
  | [] => []
  | line :: requests => if asksEvents C line then [line] else line :: throughEvents requests

def requestsOf (stream : Bytes) : List Bytes :=
  throughEvents C (((lines isNewline stream).map Line.text).filter fun line => !line.isEmpty)

def serveLines : List Bytes → Handler Unit
  | [] => return
  | line :: requests => do
    handleLine C K line
    if (← get).streaming then return
    serveLines requests

inductive Exchange : List Bytes → Session → List Json → Session → Prop where
  | nil (s : Session) : Exchange [] s [] s
  | answered {line : Bytes} {requests : List Bytes} {s t u : Session} {v : Json} {vs : List Json} :
      asksEvents C line = false → (handleLine C K line).run s = .ok () t →
      t.sent = s.sent ++ [v] → IsResponse v → Exchange requests t vs u →
      Exchange (line :: requests) s (v :: vs) u
  | events {line : Bytes} {s t : Session} :
      asksEvents C line = true → (handleLine C K line).run s = .ok () t →
      t.sent = s.sent → Exchange [line] s [] t

def Returning : List Bytes → Session → Prop
  | [], _ => True
  | line :: requests, s => ¬ Raises (handleLine C K line) s ∧
      ∀ t, (handleLine C K line).run s = .ok () t → Returning requests t

section Streaming

variable {C K} {req : Json} {s : Session}

lemma keeps_sendStr (v : Json) : Keeps Session.streaming (sendStr v) s := by
  intro a t h
  cases h
  rfl

lemma keeps_bindings : Keeps Session.streaming (bindings K req) s := by
  rw [bindings]
  refine keeps_lift_bind _ fun b _ => ?_
  cases b
  · intro a t h
    cases h
    rfl
  · refine keeps_lift_bind _ fun filter _ => ?_
    intro a t h
    cases h
    rfl

lemma keeps_bind_request : Keeps Session.streaming (ControlServer.bind K req) s := by
  rw [ControlServer.bind]
  refine keeps_lift_bind _ fun b _ => ?_
  split
  · exact keeps_sendStr _
  · refine keeps_lift_bind _ fun device _ => keeps_lift_bind _ fun key _ =>
      keeps_lift_bind _ fun cmd _ => ?_
    intro a t h
    cases h
    rfl

lemma keeps_unbind : Keeps Session.streaming (unbind K req) s := by
  rw [unbind]
  refine keeps_lift_bind _ fun b _ => ?_
  split
  · exact keeps_sendStr _
  · refine keeps_lift_bind _ fun device _ => keeps_lift_bind _ fun key _ => ?_
    intro a t h
    cases h
    rfl

lemma keeps_onConfig {α : Type} (x : Loader α) : Keeps Session.streaming (onConfig x) s := by
  intro a t h
  cases hx : x.run s.config with
  | ok b g =>
    rw [onConfig_ok hx] at h
    cases h
    rfl
  | error e g =>
    rw [onConfig_error hx] at h
    cases h

lemma keeps_reload : Keeps Session.streaming (reload C K) s := by
  rw [reload]
  refine keeps_get_bind (keeps_bind (keeps_onConfig _) fun ok t ht => ?_)
  cases ok
  · exact keeps_sendStr _
  · intro a u h
    cases h
    rfl

lemma keeps_command {cmd : String} (he : cmd ≠ "events") :
    Keeps Session.streaming (command C K cmd req) s := by
  rw [command]
  split_ifs
  · intro a t h
    cases h
    rfl
  · intro a t h
    cases h
    rfl
  · exact keeps_bindings
  · exact keeps_bind_request
  · exact keeps_unbind
  · exact keeps_reload
  · exact keeps_sendStr _

end Streaming

section Framing

variable {C K} {s : Session} {line : Bytes} {requests : List Bytes}

lemma handleClient_ended {buf : Bytes} (h : cut isNewline buf = none) :
    handleClient C K [] buf = pure () := by
  rw [handleClient.eq_def]
  split
  · rfl
  · next hs => rw [h] at hs; cases hs

lemma handleClient_read {reads : List Bytes} {tmp buf : Bytes} (h : cut isNewline buf = none)
    (hn : tmp ≠ []) : handleClient C K (tmp :: reads) buf = handleClient C K reads (buf ++ tmp) := by
  rw [handleClient.eq_def]
  split
  · cases tmp with
    | nil => exact absurd rfl hn
    | cons b tmp => rfl
  · next hs => rw [h] at hs; cases hs

lemma handleClient_line {reads : List Bytes} {buf rest : Bytes} {l : Line UInt8}
    (h : cut isNewline buf = some (l, rest)) : handleClient C K reads buf = (do
      handleLine C K l.text
      if (← get).streaming then return
      handleClient C K reads rest) := by
  rw [handleClient.eq_def]
  split
  · next hs => rw [h] at hs; cases hs
  · next hs =>
    rw [h] at hs
    obtain ⟨rfl, rfl⟩ := Prod.mk.inj (Option.some.inj hs)
    rfl

lemma handleClient_eq (reads : List Bytes) (buf : Bytes) (h : [] ∉ reads) :
    handleClient C K reads buf =
      serveLines C K ((lines isNewline (buf ++ reads.flatten)).map Line.text) := by
  induction reads, buf using handleClient.induct with
  | case1 buf hc => simp [handleClient_ended hc, lines_none hc, serveLines]
  | case2 buf hc reads => simp at h
  | case3 buf hc tmp reads hn ih =>
    rw [List.mem_cons, not_or] at h
    rw [handleClient_read hc hn, ih h.2, List.flatten_cons, List.append_assoc]
  | case4 reads buf l rest hc ih =>
    rw [handleClient_line hc, lines_some (cut_append hc reads.flatten), List.map_cons, serveLines,
      ih h]

lemma handleLine_empty : (handleLine C K []).run s = .ok () s := rfl

lemma asksEvents_iff : asksEvents C line = true ↔
    ∃ req, C.reader line = some req ∧ cmdOf req = some "events" := by
  simp [asksEvents, Option.bind_eq_some_iff]

lemma handleLine_events (hl : line ≠ []) (h : asksEvents C line = true) :
    (handleLine C K line).run s = .ok () { s with streaming := true } := by
  obtain ⟨req, hr, hc⟩ := asksEvents_iff.mp h
  have hi : req.Indexable := by
    cases req <;> simp_all [cmdOf, Json.field, Json.object?, Json.Indexable]
  rw [handleLine_command K s hl hr hi hc]
  rfl

lemma textOf_of_text {req : Json} {name t : String} (h : text req name = .ok t) :
    textOf req name = some t := by
  obtain ⟨v, hv, ht⟩ := bind_eq_ok.mp h
  obtain ⟨o, ho, hget⟩ := bind_eq_ok.mp hv
  obtain rfl : o.getD .null = v := Except.ok.inj hget
  rw [textOf, Json.field_of_find ho]
  rw [Json.asString] at ht
  split at ht
  · next hs => rw [hs, Except.ok.inj ht]
  · cases ht

lemma keeps_handleLine (h : asksEvents C line = false) :
    Keeps Session.streaming (handleLine C K line) s := by
  by_cases hl : line = []
  · subst line
    intro a t ht
    cases ht
    rfl
  · cases hr : C.reader line with
    | none =>
      rw [handleLine_unparsed C K hl hr]
      exact keeps_sendStr _
    | some req =>
      rw [handleLine_request C K hl hr]
      refine keeps_lift_bind _ fun b _ => ?_
      split
      · exact keeps_sendStr _
      · refine keeps_lift_bind _ fun cmd hcmd => keeps_command ?_
        rintro rfl
        have ht := textOf_of_text hcmd
        have hc : cmdOf req = some "events" := by
          cases hf : req.field "cmd" with
          | none => simp [textOf, hf, Json.text?] at ht
          | some v => simpa [textOf, cmdOf, hf] using ht
        rw [asksEvents_iff.mpr ⟨req, hr, hc⟩] at h
        cases h

lemma handleLine_answered (hl : line ≠ []) (h : asksEvents C line = false)
    (hr : ¬ Raises (handleLine C K line) s) : ∃ t v, (handleLine C K line).run s = .ok () t ∧
      t.sent = s.sent ++ [v] ∧ IsResponse v ∧ t.streaming = s.streaming := by
  have hu : ¬ Unanswered C line := by
    rintro (he | he)
    · exact hl he
    · rw [asksEvents_iff.mpr he] at h
      cases h
  obtain ⟨hraise, hanswer⟩ := handleLine_answers K s hu
  have hs : ¬ ¬ SafeLine C K s line := fun hn => hr (hraise hn)
  obtain ⟨t, v, ht, hv, hresp⟩ := hanswer hs
  exact ⟨t, v, ht, hv, hresp, keeps_handleLine h () t ht⟩

lemma serveLines_exchange (hs : s.streaming = false)
    (hr : Returning C K (throughEvents C (requests.filter fun line => !line.isEmpty)) s) :
    ∃ t vs, (serveLines C K requests).run s = .ok () t ∧ t.sent = s.sent ++ vs ∧
      Exchange C K (throughEvents C (requests.filter fun line => !line.isEmpty)) s vs t := by
  induction requests generalizing s with
  | nil => exact ⟨s, [], rfl, (List.append_nil _).symm, .nil s⟩
  | cons line requests ih =>
    by_cases hl : line = []
    · subst line
      obtain ⟨t, vs, ht, hsent, he⟩ := ih hs hr
      refine ⟨t, vs, ?_, hsent, he⟩
      simp only [serveLines, EStateM.run_bind, handleLine_empty, EStateM.run_get, hs,
        Bool.false_eq_true, if_false, ht]
    · have hf : (line :: requests).filter (fun line => !line.isEmpty) =
          line :: requests.filter fun line => !line.isEmpty := by simp [hl]
      rw [hf, throughEvents] at hr ⊢
      by_cases ha : asksEvents C line = true
      · rw [if_pos ha] at hr ⊢
        have ht := handleLine_events (K := K) (s := s) hl ha
        refine ⟨{ s with streaming := true }, [], ?_, (List.append_nil _).symm, .events ha ht rfl⟩
        simp only [serveLines, EStateM.run_bind, ht, EStateM.run_get, if_true]
        rfl
      · rw [if_neg ha] at hr ⊢
        rw [Bool.not_eq_true] at ha
        obtain ⟨t, v, ht, hv, hresp, hstream⟩ := handleLine_answered hl ha hr.1
        obtain ⟨u, vs, hu, hvs, he⟩ := ih (hstream.trans hs) (hr.2 t ht)
        refine ⟨u, v :: vs, ?_, ?_, .answered ha ht hv hresp he⟩
        · simp only [serveLines, EStateM.run_bind, ht, EStateM.run_get, hstream, hs,
            Bool.false_eq_true, if_false, hu]
        · rw [hvs, hv, List.append_assoc, List.singleton_append]

lemma connection_run (reads : List Bytes) (h : [] ∉ reads) (s : Session) :
    (connection C K reads).run s =
      (serveLines C K ((lines isNewline reads.flatten).map Line.text)).run
        { s with sent := [], streaming := false } := by
  rw [connection, EStateM.run_bind, connect, EStateM.run_modify, handleClient_eq reads [] h]
  rfl

lemma lines_of_responses (hw : ∀ v, ∃ text, C.fastWriter v = text ++ [newline] ∧ newline ∉ text)
    (vs : List Json) :
    (lines isNewline (vs.flatMap C.fastWriter)).map Line.full = vs.map C.fastWriter ∧
      tail isNewline (vs.flatMap C.fastWriter) = [] := by
  choose text htext hnot using hw
  have hfull : ∀ v, C.fastWriter v = (⟨text v, newline⟩ : Line UInt8).full := htext
  have hline : ∀ l ∈ vs.map fun v => (⟨text v, newline⟩ : Line UInt8),
      (∀ b ∈ l.text, isNewline b = false) ∧ isNewline l.last = true := by
    intro l hl
    obtain ⟨v, -, rfl⟩ := List.mem_map.mp hl
    exact ⟨fun b hb => beq_false_of_ne fun he => hnot v (he ▸ hb), beq_self_eq_true newline⟩
  have hflat : vs.flatMap C.fastWriter =
      (vs.map fun v => (⟨text v, newline⟩ : Line UInt8)).flatMap Line.full := by
    rw [List.flatMap_map]
    exact List.flatMap_congr fun v _ => hfull v
  obtain ⟨hl, ht⟩ := lines_flatMap hline
  rw [hflat, hl, ht, List.map_map]
  exact ⟨List.map_congr_left fun v _ => (hfull v).symm, rfl⟩

end Framing

theorem framing_independent_of_chunks (reads : List Bytes) (hreads : [] ∉ reads) (s : Session)
    (hraise : Returning C K (requestsOf C reads.flatten) { s with sent := [], streaming := false })
    (hw : ∀ v, ∃ text, C.fastWriter v = text ++ [newline] ∧ newline ∉ text) :
    (∃ t, (connection C K reads).run s = .ok () t ∧
      Exchange C K (requestsOf C reads.flatten) { s with sent := [], streaming := false } t.sent t ∧
      (lines isNewline (t.sent.flatMap C.fastWriter)).map Line.full = t.sent.map C.fastWriter ∧
      tail isNewline (t.sent.flatMap C.fastWriter) = []) ∧
    ∀ reads', [] ∉ reads' → reads'.flatten = reads.flatten →
      (connection C K reads').run s = (connection C K reads).run s := by
  constructor
  · obtain ⟨t, vs, ht, hsent, he⟩ := serveLines_exchange rfl hraise
    obtain rfl : t.sent = vs := hsent
    exact ⟨t, (connection_run reads hreads s).trans ht, he, lines_of_responses hw t.sent⟩
  · intro reads' hreads' hflat
    rw [connection_run reads hreads, connection_run reads' hreads', hflat]

def devicesRequest : Bytes := utf8 "\x7b\"cmd\":\"devices\"\x7d"

def noDevicesText : Bytes := utf8 "\x7b\"devices\":[],\"ok\":true\x7d"

def devicesCodec : Codec where
  reader text := if text = devicesRequest then some (.object [("cmd", .string "devices")]) else none
  charReader _ := none
  parseErrors _ := ""
  fastWriter v :=
    (if v.same (okResponse [("devices", .array [])]) then noDevicesText else []) ++ [newline]
  streamWriter _ := []

theorem devices_request_in_two_reads : ∃ t, (connection devicesCodec inputEventCodes
      [devicesRequest.take 5, devicesRequest.drop 5 ++ [newline]]).run {} = .ok () t ∧
    Exchange devicesCodec inputEventCodes [devicesRequest] {} t.sent t := by
  have hflat : [devicesRequest.take 5, devicesRequest.drop 5 ++ [newline]].flatten =
      devicesRequest ++ [newline] := by decide
  have hlines : lines isNewline (devicesRequest ++ [newline]) = [⟨devicesRequest, newline⟩] := by
    have hline : ∀ l ∈ [(⟨devicesRequest, newline⟩ : Line UInt8)],
        (∀ x ∈ l.text, isNewline x = false) ∧ isNewline l.last = true := by decide +kernel
    exact (lines_flatMap hline).1
  have hrequests : requestsOf devicesCodec
      [devicesRequest.take 5, devicesRequest.drop 5 ++ [newline]].flatten = [devicesRequest] := by
    rw [requestsOf, hflat, hlines]
    rfl
  have hreturns : Returning devicesCodec inputEventCodes [devicesRequest] {} := by
    refine ⟨?_, fun _ _ => trivial⟩
    rintro ⟨e, t, he⟩
    cases he
  have hwriter : ∀ v, ∃ text, devicesCodec.fastWriter v = text ++ [newline] ∧ newline ∉ text := by
    intro v
    refine ⟨_, rfl, ?_⟩
    split
    · decide
    · exact List.not_mem_nil
  have hrun := framing_independent_of_chunks devicesCodec inputEventCodes
    [devicesRequest.take 5, devicesRequest.drop 5 ++ [newline]] (by decide) {}
  rw [hrequests] at hrun
  obtain ⟨⟨t, ht, he, -⟩, -⟩ := hrun hreturns hwriter
  exact ⟨t, ht, he⟩

end PointerForce.Daemon.RequestFraming
