import PointerForce.Bridge.EventLines
import PointerForce.Bridge.StreamClient
import PointerForce.Client.Pfctl

/-! `pfctl events` beside the event feed of the bridge: both read the same stream, one byte by byte up
to an empty line, the other in pieces and on past it. -/

namespace PointerForce.Client.Pfctl

open Foundations Foundations.Faults Foundations.Lines OneShot Bridge Bridge.StreamClient

variable (C : Codec)

def lineText (line : Bytes) : Except LogicError Bytes :=
  match C.reader line with
  | some msg => utf8 <$> EventLines.formatEventLine msg
  | none => .ok line

def asLines (texts : List Bytes) : Bytes := texts.flatMap fun text => text ++ [newline]

-- the last line need not be ended
def shown (bytes : Bytes) : List Bytes :=
  ((lines isNewline bytes).map Line.text ++ [tail isNewline bytes]).takeWhile fun line => !line.isEmpty

section Printing

variable {C}

lemma getString_eq (v : Json) (name : String) : getString v name = EventLines.getString v name := by
  cases hf : v.find name with
  | error e => simp only [getString, EventLines.getString, Json.get, hf, error_bind]
  | ok o => cases o <;> simp only [getString, EventLines.getString, Json.get, hf, ok_bind] <;> rfl

lemma printEvent_eq (msg : Json) : printEvent msg = EventLines.formatEventLine msg := by
  simp only [printEvent, EventLines.formatEventLine, getString_eq]

lemma printEvents_empty {bytes : Bytes} (h : (readLine bytes).1 = []) : printEvents C bytes = .ok [] := by
  rw [printEvents, dif_pos h]

lemma printEvents_line {bytes : Bytes} (h : (readLine bytes).1 ≠ []) : printEvents C bytes = do
    return (← lineText C (readLine bytes).1) ++ [newline] ++ (← printEvents C (readLine bytes).2) := by
  rw [printEvents, dif_neg h, lineText]
  cases C.reader (readLine bytes).1 with
  | none => rfl
  | some msg => simp only [printEvent_eq]

lemma asLines_cons (text : Bytes) (texts : List Bytes) :
    asLines (text :: texts) = text ++ [newline] ++ asLines texts := List.flatMap_cons

lemma printEvents_eq (bytes : Bytes) :
    printEvents C bytes = asLines <$> (shown bytes).mapM (lineText C) := by
  have hcons : ∀ line rest lines, printEvents C rest = asLines <$> lines.mapM (lineText C) →
      (do return (← lineText C line) ++ [newline] ++ (← printEvents C rest)) =
        asLines <$> (line :: lines).mapM (lineText C) := by
    intro line rest lines ih
    rw [ih, List.mapM_cons]
    cases lineText C line with
    | error e => rfl
    | ok text => cases lines.mapM (lineText C) with
      | error e => rfl
      | ok texts => exact congrArg Except.ok (asLines_cons text texts).symm
  induction bytes using cut_induction isNewline with
  | unended bytes h =>
    have hread : readLine bytes = (bytes, []) := by rw [readLine, h]
    rw [shown, lines_none h, tail_none h, List.map_nil, List.nil_append]
    by_cases hb : bytes = []
    · subst bytes
      rw [printEvents_empty (by rw [hread])]
      rfl
    · have hnil : printEvents C [] = asLines <$> ([] : List Bytes).mapM (lineText C) :=
        printEvents_empty rfl
      rw [printEvents_line (by rw [hread]; exact hb), hread, List.takeWhile_cons_of_pos (by simpa using hb)]
      exact hcons bytes [] [] hnil
  | line bytes l rest h ih =>
    have hread : readLine bytes = (l.text, rest) := by rw [readLine, h]
    rw [shown, lines_some h, tail_some h, List.map_cons, List.cons_append]
    by_cases hl : l.text = []
    · rw [printEvents_empty (by rw [hread, hl]), List.takeWhile_cons_of_neg (by simp [hl])]
      rfl
    · rw [printEvents_line (by rw [hread]; exact hl), hread, List.takeWhile_cons_of_pos (by simpa using hl)]
      exact hcons l.text rest _ ih

lemma shown_whole {bytes : Bytes} (hended : tail isNewline bytes = [])
    (hlines : ∀ l ∈ lines isNewline bytes, l.text ≠ []) :
    shown bytes = (lines isNewline bytes).map Line.text := by
  have hall : ∀ line ∈ (lines isNewline bytes).map Line.text, (!line.isEmpty) = true := by
    intro line hm
    obtain ⟨l, hl, rfl⟩ := List.mem_map.mp hm
    simpa using hlines l hl
  rw [shown, hended, List.takeWhile_append_of_pos hall]
  simp

lemma mapM_lineText {ls : List (Line Sent)}
    (h : ∀ l ∈ ls, l.text ≠ [] ∧ (C.reader (l.text.map Sent.byte)).isSome) :
    (ls.map fun l => l.text.map Sent.byte).mapM (lineText C) =
      (fun texts => texts.map utf8) <$>
        (ls.filterMap (event C)).mapM fun p => EventLines.formatEventLine p.2 := by
  induction ls with
  | nil => rfl
  | cons l ls ih =>
    obtain ⟨hne, hread⟩ := h l List.mem_cons_self
    obtain ⟨msg, hmsg⟩ := Option.isSome_iff_exists.mp hread
    have hline : lineText C (l.text.map Sent.byte) = utf8 <$> EventLines.formatEventLine msg := by
      rw [lineText, hmsg]
    rw [List.map_cons, List.mapM_cons, ih fun m hm => h m (List.mem_cons_of_mem l hm),
      List.filterMap_cons_some (event_of_text hne hmsg), List.mapM_cons, hline]
    cases EventLines.formatEventLine msg with
    | error e => rfl
    | ok text =>
      cases (ls.filterMap (event C)).mapM fun p => EventLines.formatEventLine p.2 <;> rfl

end Printing

/-- Of a stream of whole lines with an object on each, `pfctl` prints the text that the bridge makes of
each object that its reader, by reads of any size, passes on. -/
theorem pfctl_prints_feed {stream : List Sent} {client : Client} (h : Reads C client stream)
    (hall : client.consumed = stream.length) (hended : tail ends stream = [])
    (hlines : ∀ l ∈ lines ends stream, l.text ≠ [] ∧ (C.reader (l.text.map Sent.byte)).isSome) :
    printEvents C (stream.map Sent.byte) = (fun texts => asLines (texts.map utf8)) <$>
      client.passed.mapM fun p => EventLines.formatEventLine p.2 := by
  have hends : ∀ b : Sent, isNewline b.byte = ends b := fun _ => rfl
  obtain ⟨hmap, htail⟩ := lines_map Sent.byte hends stream
  have hshown : shown (stream.map Sent.byte) =
      (lines ends stream).map fun l => l.text.map Sent.byte := by
    rw [shown_whole (by rw [htail, hended, List.map_nil]), hmap, List.map_map]
    · rfl
    · intro l hl
      rw [hmap] at hl
      obtain ⟨m, hm, rfl⟩ := List.mem_map.mp hl
      simpa [Line.map] using (hlines m hm).1
  rw [printEvents_eq, hshown, mapM_lineText hlines, passed_of_all_read h hall, passedOf, ← comp_map]
  rfl

def sideLine : Line Sent := ⟨(utf8
  "\x7b\"command\":\"xdotool key F5\",\"device\":\"G502\",\"key\":\"BTN_SIDE\"\x7d").map
    fun b => ⟨b, 0⟩, ⟨newline, 0⟩⟩

def extraLine : Line Sent := ⟨(utf8
  "\x7b\"command\":\"\",\"device\":\"G502\",\"key\":\"BTN_EXTRA\"\x7d").map
    fun b => ⟨b, 0⟩, ⟨newline, 0⟩⟩

def twoEvents : List Sent := [sideLine, extraLine].flatMap Line.full

def twoEventsCodec : Codec := .ofTable [
  (sideLine.text.map Sent.byte, .ofMembers [("command", .string "xdotool key F5"),
    ("device", .string "G502"), ("key", .string "BTN_SIDE")]),
  (extraLine.text.map Sent.byte, .ofMembers [("command", .string ""), ("device", .string "G502"),
    ("key", .string "BTN_EXTRA")])]

theorem two_events_printed : ∃ client, Reads twoEventsCodec client twoEvents ∧
    printEvents twoEventsCodec (twoEvents.map Sent.byte) = (fun texts => asLines (texts.map utf8)) <$>
      client.passed.mapM fun p => EventLines.formatEventLine p.2 := by
  have hwritten : ∀ l ∈ [sideLine, extraLine],
      (∀ b ∈ l.text, ends b = false) ∧ ends l.last = true := by decide
  obtain ⟨hlines, htail⟩ := lines_flatMap hwritten
  have hstart : Reads twoEventsCodec {} twoEvents := reads_start
  have hfirst := reads_receive hstart (n := 7) (by decide)
  have hsecond := reads_receive hfirst (n := twoEvents.length - 7) (by decide)
  refine ⟨_, hsecond, pfctl_prints_feed _ hsecond (by decide) htail fun l hl => ?_⟩
  rw [twoEvents, hlines, List.mem_cons, List.mem_singleton] at hl
  rcases hl with rfl | rfl <;> exact ⟨by decide, rfl⟩

end PointerForce.Client.Pfctl
