import PointerForce.Foundations.Json

/-! Streams of Server-Sent Events: how a receiver takes one apart byte by byte, and the chunks of
which a sender makes one up. -/

namespace PointerForce.Foundations.ServerSentEvents

def carriageReturn : UInt8 := 13

def colon : UInt8 := 58

def space : UInt8 := 32

structure Decoder where
  line : Bytes := []
  -- a newline directly after a carriage return ends no further line
  returned : Bool := false
  data : Option Bytes := none
  events : List Bytes := []
  deriving DecidableEq, Repr

def fieldName (line : Bytes) : Bytes := line.takeWhile (· != colon)

def fieldValue (line : Bytes) : Bytes :=
  let rest := (line.dropWhile (· != colon)).drop 1
  if rest.head? = some space then rest.drop 1 else rest

def appendData (data : Option Bytes) (value : Bytes) : Bytes :=
  (data.map fun d => d ++ newline :: value).getD value

/-- A blank line ends an event, which has data if one of its lines did. A comment is a line with
an empty field name. -/
def endLine (d : Decoder) : Decoder :=
  if d.line.isEmpty then { d with data := none, events := d.events ++ d.data.toList }
  else if fieldName d.line = utf8 "data" then
    { d with line := [], data := some (appendData d.data (fieldValue d.line)) }
  else { d with line := [] }

def feed (d : Decoder) (b : UInt8) : Decoder :=
  if b = newline then if d.returned then { d with returned := false } else endLine d
  else if b = carriageReturn then { endLine d with returned := true }
  else { d with line := d.line ++ [b], returned := false }

def read (d : Decoder) (bs : Bytes) : Decoder := bs.foldl feed d

def decode (stream : Bytes) : List Bytes := (read {} stream).events

def event (data : Bytes) : Bytes := utf8 "data: " ++ data ++ [newline, newline]

def comment (text : Bytes) : Bytes := colon :: text ++ [newline, newline]

def OneLine (bs : Bytes) : Prop := ∀ b ∈ bs, b ≠ newline ∧ b ≠ carriageReturn

instance : DecidablePred OneLine := fun bs =>
  List.decidableBAll (fun b => b ≠ newline ∧ b ≠ carriageReturn) bs

structure Idle (d : Decoder) : Prop where
  returned : d.returned = false
  data : d.data = none
  line : d.line = [] ∨ ∃ text, d.line = colon :: text

section Reading

variable {d : Decoder} {bs cs : Bytes}

lemma read_append (d : Decoder) (bs cs : Bytes) : read d (bs ++ cs) = read (read d bs) cs :=
  List.foldl_append

lemma read_oneLine (hd : d.returned = false) (h : OneLine bs) :
    read d bs = { d with line := d.line ++ bs } := by
  induction bs generalizing d with
  | nil => simp [read]
  | cons b bs ih =>
    obtain ⟨hn, hr⟩ := h b List.mem_cons_self
    have hfeed : feed d b = { d with line := d.line ++ [b], returned := false } := by
      rw [feed, if_neg hn, if_neg hr]
    have hrest := @ih (feed d b) (by rw [hfeed]) fun c hc => h c (List.mem_cons_of_mem b hc)
    have hread : read d (b :: bs) = read (feed d b) bs := rfl
    rw [hread, hrest, hfeed, List.append_assoc, hd]
    rfl

lemma feed_newline (hd : d.returned = false) : feed d newline = endLine d := by
  rw [feed, if_pos rfl, hd]
  rfl

lemma endLine_comment {text : Bytes} (hline : d.line = colon :: text) :
    endLine d = { d with line := [] } := by
  have hname : fieldName d.line = [] := by
    rw [hline, fieldName, List.takeWhile_cons_of_neg (by decide)]
  rw [endLine, if_neg (by simp [hline]), if_neg]
  rw [hname]
  decide

lemma endLine_blank (hline : d.line = []) :
    endLine d = { d with data := none, events := d.events ++ d.data.toList } := by
  rw [endLine, if_pos (List.isEmpty_iff.mpr hline)]

lemma idle_endLine (hd : Idle d) : Idle (endLine d) ∧ (endLine d).events = d.events := by
  rcases hd.line with hline | ⟨text, hline⟩
  · have he : endLine d = d := by
      rw [endLine_blank hline, hd.data, Option.toList_none, List.append_nil, ← hd.data]
    rw [he]
    exact ⟨hd, rfl⟩
  · rw [endLine_comment hline]
    exact ⟨⟨hd.returned, hd.data, .inl rfl⟩, rfl⟩

lemma idle_newlines (hd : Idle d) (h : ∀ b ∈ bs, b = newline) :
    Idle (read d bs) ∧ (read d bs).events = d.events := by
  induction bs generalizing d with
  | nil => exact ⟨hd, rfl⟩
  | cons b bs ih =>
    obtain rfl := h b List.mem_cons_self
    obtain ⟨hidle, hevents⟩ := idle_endLine hd
    rw [← feed_newline hd.returned] at hidle hevents
    rw [← hevents]
    exact ih hidle fun c hc => h c (List.mem_cons_of_mem _ hc)

lemma idle_comment (hd : Idle d) {text : Bytes} (htext : OneLine text) (n : ℕ) :
    Idle (read d ((comment text).take n)) ∧ (read d ((comment text).take n)).events = d.events := by
  have hline : OneLine ((colon :: text).take n) := by
    intro b hb
    rcases List.mem_cons.mp (List.mem_of_mem_take hb) with rfl | hb
    · decide
    · exact htext b hb
  have hidle : Idle { d with line := d.line ++ (colon :: text).take n } := by
    refine ⟨hd.returned, hd.data, ?_⟩
    rcases hd.line with he | ⟨begun, he⟩
    · cases n with
      | zero => exact .inl (by simp [he])
      | succ n => exact .inr ⟨text.take n, by simp [he]⟩
    · exact .inr ⟨begun ++ (colon :: text).take n, by simp [he]⟩
  rw [comment, List.take_append, read_append, read_oneLine hd.returned hline]
  refine idle_newlines hidle fun b hb => ?_
  simpa using List.mem_of_mem_take hb

@[simp] lemma endLine_line (d : Decoder) : (endLine d).line = [] := by
  rw [endLine]
  split
  · next he => exact List.isEmpty_iff.mp he
  · split <;> rfl

lemma endLine_data (hd : d.data = none) {data : Bytes} (hline : d.line = utf8 "data: " ++ data) :
    endLine d = { d with line := [], data := some data } := by
  have hcons : d.line = utf8 "data" ++ colon :: space :: data := by
    rw [hline, show utf8 "data: " = utf8 "data" ++ [colon, space] by decide, List.append_assoc]
    rfl
  have hword : ∀ b ∈ utf8 "data", (b != colon) = true := List.all_eq_true.mp (by decide)
  have hname : fieldName d.line = utf8 "data" := by
    rw [hcons, fieldName, List.takeWhile_append_of_pos hword]
    simp
  have hvalue : fieldValue d.line = data := by
    rw [hcons, fieldValue, List.dropWhile_append_of_pos hword]
    simp
  have hne : ¬ d.line.isEmpty := by simp [hcons]
  rw [endLine, if_neg hne, if_pos hname, hvalue, hd]
  rfl

lemma read_event (hd : Idle d) (hline : d.line = []) {data : Bytes} (hdata : OneLine data) :
    read d (event data) = { d with events := d.events ++ [data] } := by
  have htext : OneLine (utf8 "data: " ++ data) := by
    intro b hb
    rcases List.mem_append.mp hb with hb | hb
    · have hword : OneLine (utf8 "data: ") := by decide
      exact hword b hb
    · exact hdata b hb
  have hfield : feed { d with line := d.line ++ (utf8 "data: " ++ data) } newline =
      { d with line := [], data := some data } := by
    refine (feed_newline ?_).trans (endLine_data ?_ ?_)
    · exact hd.returned
    · exact hd.data
    · rw [hline, List.nil_append]
  have hblank : feed { d with line := [], data := some data } newline =
      { d with events := d.events ++ [data] } := by
    refine (feed_newline ?_).trans ((endLine_blank rfl).trans ?_)
    · exact hd.returned
    · rw [hline, hd.data]
      rfl
  rw [event, read_append, read_oneLine hd.returned htext]
  exact (congrArg (fun d => feed d newline) hfield).trans hblank

lemma feed_line {b : UInt8} (hd : d.returned → d.line = []) :
    ((feed d b).returned → (feed d b).line = []) ∧ (b = newline → (feed d b).line = []) := by
  rw [feed]
  split_ifs with hn hr hc
  · exact ⟨fun _ => hd hr, fun _ => hd hr⟩
  · simp
  · simp
  · exact ⟨nofun, fun h => absurd h hn⟩

lemma line_of_returned (stream : Bytes) :
    (read {} stream).returned → (read {} stream).line = [] := by
  induction stream using List.reverseRecOn with
  | nil => exact fun _ => rfl
  | append_singleton bs b ih =>
    rw [read_append]
    exact (feed_line ih).1

lemma line_of_newline {stream : Bytes} (hlast : stream.getLast? = some newline) :
    (read {} stream).line = [] := by
  obtain ⟨bs, rfl⟩ := List.getLast?_eq_some_iff.mp hlast
  rw [read_append]
  exact (feed_line (line_of_returned bs)).2 rfl

lemma newline_of_line {stream : Bytes} (hreturned : (read {} stream).returned = false)
    (hline : (read {} stream).line = []) : stream = [] ∨ stream.getLast? = some newline := by
  rcases List.eq_nil_or_concat' stream with rfl | ⟨bs, b, rfl⟩
  · exact .inl rfl
  · have hread : read {} (bs ++ [b]) = feed (read {} bs) b := read_append {} bs [b]
    rw [hread, feed] at hreturned hline
    by_cases hn : b = newline
    · exact .inr (by simp [hn])
    · rw [if_neg hn] at hreturned hline
      by_cases hr : b = carriageReturn
      · rw [if_pos hr] at hreturned
        cases hreturned
      · rw [if_neg hr] at hline
        simp at hline

end Reading

end PointerForce.Foundations.ServerSentEvents
