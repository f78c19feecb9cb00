import PointerForce.Daemon.ReportedKeys
import PointerForce.Foundations.Delimiters
import PointerForce.Foundations.Faults

/-! The lines that the bridge sends to the web page for events, and how the page reads them. The
fields of a line are not escaped. -/

namespace PointerForce.Bridge.EventLines

open Foundations Foundations.Faults Foundations.Delimiters Daemon Daemon.Observers

def arrow : Char := '→'

def getString (event : Json) (name : String) : Except LogicError String := do
  ((← event.find name).getD (.string "")).asString

def formatEventLine (event : Json) : Except LogicError String := do
  let line := "[" ++ (← getString event "device") ++ "] " ++ (← getString event "key")
  let command ← getString event "command"
  return if command = "" then line else line ++ "  →  " ++ command

inductive KeyState where
  | down
  | up
  deriving DecidableEq, Repr

structure ParsedLine where
  device : String
  key : String
  command : String
  state : Option KeyState
  deriving DecidableEq, Repr

-- what `\s` and `trim` take for white space
def spaces : List Char :=
  ['\t', '\n', '\x0b', '\x0c', '\r', ' ', '\u00a0', '\u1680', '\u2000', '\u2001', '\u2002', '\u2003',
    '\u2004', '\u2005', '\u2006', '\u2007', '\u2008', '\u2009', '\u200a', '\u2028', '\u2029', '\u202f',
    '\u205f', '\u3000', '\ufeff']

def isSpace (c : Char) : Bool := c ∈ spaces

-- what a text field of the page keeps of a text that is assigned to it
def fieldText (text : List Char) : List Char := text.filter fun c => c != '\n' && c != '\r'

def isWordChar (c : Char) : Bool := c.isAlphanum || c == '_'

def indexOf (c : Char) (start : ℕ) (text : List Char) : Option ℕ :=
  ((text.drop start).findIdx? (· == c)).map (· + start)

def slice (first last : ℕ) (text : List Char) : List Char := (text.take last).drop first

-- in the order in which the alternatives and their optional endings are tried
def stateWords : List String := ["down", "up", "pressed", "press", "released", "release"]

def matchState (rest : List Char) : Option String :=
  stateWords.find? fun word =>
    (rest.take word.length).map Char.toLower == word.toList &&
      !((rest.drop word.length).head?.any isWordChar)

def stateOf (word : String) : KeyState :=
  if word = "down" ∨ "press".toList <+: word.toList then .down else .up

-- what follows the device, with the white space around it removed
def parseAfterDevice (device rest : List Char) : Option ParsedLine :=
  if rest.isEmpty then none
  else
    let spaceIdx := rest.findIdx? isSpace
    let key := (spaceIdx.map fun i => rest.take i).getD rest
    let rest := (spaceIdx.map fun i => trim isSpace (rest.drop i)).getD []
    let word := matchState rest
    let rest := (word.map fun w => trim isSpace (rest.drop w.length)).getD rest
    let command := ((indexOf arrow 0 rest).map fun i => trim isSpace (rest.drop (i + 1))).getD []
    some { device := .ofList device, key := .ofList key, command := .ofList command,
           state := word.map stateOf }

def parseEventLine (line : String) : Option ParsedLine := do
  let line := line.toList
  let lb ← indexOf '[' 0 line
  let rb ← indexOf ']' lb line
  parseAfterDevice (trim isSpace (slice (lb + 1) rb line)) (trim isSpace (line.drop (rb + 1)))

def Trimmed (text : String) : Prop := trim isSpace text.toList = text.toList

lemma fieldText_eq_self_iff {text : List Char} :
    fieldText text = text ↔ ∀ c ∈ text, c ≠ '\n' ∧ c ≠ '\r' := by
  simp only [fieldText, List.filter_eq_self, Bool.and_eq_true, bne_iff_ne]

lemma sent_text_iff (text : String) : String.ofList (trim isSpace (fieldText text.toList)) = text ↔
    Trimmed text ∧ ∀ c ∈ text.toList, c ≠ '\n' ∧ c ≠ '\r' := by
  constructor
  · intro h
    have ht : trim isSpace (fieldText text.toList) = text.toList := by
      rw [← String.toList_ofList (l := trim isSpace (fieldText text.toList)), h]
    have hle : text.toList.length ≤ (fieldText text.toList).length := by
      rw [← congrArg List.length ht]
      exact length_trim_le _
    have hself : fieldText text.toList = text.toList :=
      List.filter_sublist.eq_of_length_le hle
    rw [hself] at ht
    exact ⟨ht, fieldText_eq_self_iff.mp hself⟩
  · rintro ⟨ht, hplain⟩
    rw [fieldText_eq_self_iff.mpr hplain, ht, String.ofList_toList]

variable (K : KeyCodes)

def RoundTrips (ev : InputEvent) (cmd : String) : Prop :=
  ∃ line, formatEventLine (eventLine K ev cmd) = .ok line ∧ parseEventLine line =
    some { device := ev.deviceId, key := codeToName K ev.code, command := cmd, state := none }

def suffix (command : String) : List Char :=
  if command = "" then [] else "  →  ".toList ++ command.toList

section Formatting

lemma getString_of_field {event : Json} {name value : String} (hi : event.Indexable)
    (h : event.field name = some (.string value)) : getString event name = .ok value := by
  simp only [getString, Json.find_indexable hi, h, ok_bind, Option.getD_some]
  rfl

lemma formatEventLine_eq (ev : InputEvent) (cmd : String) : ∃ line,
    formatEventLine (eventLine K ev cmd) = .ok line ∧ line.toList = '[' :: (ev.deviceId.toList ++
      ']' :: ' ' :: ((codeToName K ev.code).toList ++ suffix cmd)) := by
  have hi : (eventLine K ev cmd).Indexable := trivial
  have hd : (eventLine K ev cmd).field "device" = some (.string ev.deviceId) := by
    simp [eventLine, Json.ofMembers, Json.field_set]
  have hk : (eventLine K ev cmd).field "key" = some (.string (codeToName K ev.code)) := by
    simp [eventLine, Json.ofMembers, Json.field_set]
  have hc : (eventLine K ev cmd).field "command" = some (.string cmd) := by
    simp [eventLine, Json.ofMembers, Json.field_set]
  simp only [formatEventLine, getString_of_field hi hd, getString_of_field hi hk,
    getString_of_field hi hc, ok_bind]
  refine ⟨_, rfl, ?_⟩
  rw [suffix]
  split <;> simp [String.toList_append]

end Formatting

section Parsing

variable {line : String} {inner rest key : List Char}

lemma parse_bracketed (h : line.toList = '[' :: (inner ++ ']' :: rest)) (hinner : ']' ∉ inner) :
    parseEventLine line = parseAfterDevice (trim isSpace inner) (trim isSpace rest) := by
  have hlb : indexOf '[' 0 line.toList = some 0 := by simp [indexOf, h, List.findIdx?_cons]
  have hrb : indexOf ']' 0 line.toList = some (inner.length + 1) := by
    have hno : ∀ c ∈ '[' :: inner, ¬ (c == ']') = true := by
      rw [List.forall_mem_cons]
      refine ⟨by decide, fun c hc he => hinner ?_⟩
      rwa [beq_iff_eq.mp he] at hc
    have hidx := findIdx_word hno (y := ']') rfl rest
    simpa [indexOf, h] using hidx
  simp only [parseEventLine, hlb, hrb, Option.bind_eq_bind, Option.bind_some]
  simp [h, slice]

lemma device_of_parse {device : List Char} {p : ParsedLine}
    (h : parseAfterDevice device rest = some p) : p.device = .ofList device := by
  rw [parseAfterDevice] at h
  split at h
  · cases h
  · obtain rfl := Option.some.inj h
    rfl

lemma parse_key (hne : key ≠ []) (hkey : ∀ c ∈ key, ¬ isSpace c) (device : List Char) :
    parseAfterDevice device key =
      some { device := .ofList device, key := .ofList key, command := "", state := none } := by
  have hidx : key.findIdx? isSpace = none := by simpa [List.findIdx?_eq_none_iff] using hkey
  have he : ¬ key.isEmpty := by simpa using hne
  have hword : matchState [] = none := by decide
  simp only [parseAfterDevice, if_neg he, hidx, Option.map_none, Option.getD_none, hword]
  rfl

lemma matchState_arrow (text : List Char) : matchState (arrow :: text) = none := by
  rw [matchState, List.find?_eq_none]
  have hfirst : ∀ word ∈ stateWords, 0 < word.length ∧ word.toList.head? ≠ some arrow.toLower := by
    decide
  intro word hword h
  obtain ⟨hlen, hne⟩ := hfirst word hword
  obtain ⟨n, hn⟩ := Nat.exists_eq_succ_of_ne_zero hlen.ne'
  rw [Bool.and_eq_true, beq_iff_eq, hn] at h
  exact hne (by rw [← h.1]; rfl)

lemma parse_key_arrow (hne : key ≠ []) (hkey : ∀ c ∈ key, ¬ isSpace c) (device tail : List Char) :
    parseAfterDevice device (key ++ "  →".toList ++ tail.rdropWhile isSpace) =
      some { device := .ofList device, key := .ofList key, command := .ofList (trim isSpace tail),
             state := none } := by
  have he : ¬ (key ++ "  →".toList ++ tail.rdropWhile isSpace).isEmpty := by simp [hne]
  have hidx : (key ++ "  →".toList ++ tail.rdropWhile isSpace).findIdx? isSpace =
      some key.length := by
    rw [List.append_assoc]
    exact findIdx_word hkey (by decide) _
  have htake : (key ++ "  →".toList ++ tail.rdropWhile isSpace).take key.length = key := by simp
  have hrest : trim isSpace ((key ++ "  →".toList ++ tail.rdropWhile isSpace).drop key.length) =
      arrow :: tail.rdropWhile isSpace := by
    rw [List.append_assoc, List.drop_left]
    calc trim isSpace ([' ', ' '] ++ arrow :: tail.rdropWhile isSpace)
        = trim isSpace (arrow :: tail.rdropWhile isSpace) := trim_padding_left (List.all_eq_true.mp (by decide))
      _ = arrow :: tail.rdropWhile isSpace := by
        rw [trim_cons arrow (by decide), List.rdropWhile_idempotent]
  have harrow : indexOf arrow 0 (arrow :: tail.rdropWhile isSpace) = some 0 := by
    simp [indexOf, List.findIdx?_cons]
  simp only [parseAfterDevice, if_neg he, hidx, Option.map_some, Option.getD_some, htake, hrest,
    matchState_arrow, Option.map_none, Option.getD_none, harrow, List.drop_succ_cons, List.drop_zero,
    trim_rdropWhile]

lemma key_of_parse {line : String} {p : ParsedLine} (h : parseEventLine line = some p) :
    p.key ≠ "" ∧ ∀ c ∈ p.key.toList, ¬ isSpace c := by
  simp only [parseEventLine, Option.bind_eq_bind, Option.bind_eq_some_iff] at h
  obtain ⟨lb, -, rb, -, h⟩ := h
  obtain ⟨hne, h⟩ := Option.ite_none_left_eq_some.mp h
  obtain rfl := Option.some.inj h
  cases hrest : trim isSpace (line.toList.drop (rb + 1)) with
  | nil => simp [hrest] at hne
  | cons c cs =>
    obtain ⟨hword, hchars⟩ := first_word (head_trim hrest) hrest
    rw [hrest] at hword hchars
    refine ⟨fun he => hword ?_, ?_⟩
    · exact String.ofList_eq_empty_iff.mp he
    · rw [String.toList_ofList]
      exact hchars

end Parsing

lemma not_isSpace_of_range {c : Char} (h : '0' ≤ c ∧ c ≤ '_') : ¬ isSpace c := by
  have hspaces : ∀ c ∈ spaces, ¬ ('0' ≤ c ∧ c ≤ '_') :=
    List.all_iff_forall_prop.mp (by decide)
  exact fun hs => hspaces c (of_decide_eq_true hs) h

lemma digits_no_space (n : ℕ) : ∀ c ∈ n.repr.toList, ¬ isSpace c := by
  intro c hc hs
  have hspaces : ∀ c ∈ spaces, ¬ c.isDigit := List.all_iff_forall_prop.mp (by decide)
  rw [Nat.toList_repr] at hc
  exact hspaces c (of_decide_eq_true hs) (Nat.isDigit_of_mem_toDigits (by decide) (by decide) hc)

lemma unknown_chars (code : ℤ) : s!"KEY_UNKNOWN({code})" ≠ "" ∧
    ∀ c ∈ s!"KEY_UNKNOWN({code})".toList, ¬ isSpace c := by
  have hcode : ∀ c ∈ (toString code).toList, ¬ isSpace c := by
    rw [Int.toString_eq_repr, Int.repr_eq_if]
    split
    · exact digits_no_space _
    · rw [String.toList_append, List.forall_mem_append]
      exact ⟨List.all_iff_forall_prop.mp (by decide), digits_no_space _⟩
  have htext : s!"KEY_UNKNOWN({code})".toList =
      "KEY_UNKNOWN(".toList ++ ((toString code).toList ++ ")".toList) := by
    rw [← String.toList_append, ← String.toList_append, ← String.append_assoc]
    rfl
  constructor
  · intro h
    rw [h] at htext
    cases htext
  · rw [htext, List.forall_mem_append, List.forall_mem_append]
    refine ⟨List.all_iff_forall_prop.mp (by decide), hcode, ?_⟩
    exact List.all_iff_forall_prop.mp (by decide)

lemma key_chars (code : ℤ) : codeToName K code ≠ "" ∧
    ∀ c ∈ (codeToName K code).toList, ¬ isSpace c := by
  by_cases hl : ReportedKeys.Listed K code
  · obtain ⟨hne, hc⟩ := ReportedKeys.keyNames_chars _ ((ReportedKeys.codeToName_mem_iff K).mpr hl)
    exact ⟨hne, fun c hm => not_isSpace_of_range (hc c hm)⟩
  · rw [ReportedKeys.codeToName_unlisted K hl]
    exact unknown_chars code

lemma parse_formatted {device key cmd line : String}
    (h : line.toList = '[' :: (device.toList ++ ']' :: ' ' :: (key.toList ++ suffix cmd)))
    (hdevice : ']' ∉ device.toList) (hne : key ≠ "") (hkey : ∀ c ∈ key.toList, ¬ isSpace c) :
    parseEventLine line = some
      { device := .ofList (trim isSpace device.toList), key
        command := .ofList (trim isSpace cmd.toList), state := none } := by
  have hne' : key.toList ≠ [] := mt String.toList_eq_nil_iff.mp hne
  have hspace : trim isSpace (' ' :: (key.toList ++ suffix cmd)) =
      key.toList ++ (suffix cmd).rdropWhile isSpace := by
    calc trim isSpace ([' '] ++ (key.toList ++ suffix cmd))
        = trim isSpace (key.toList ++ suffix cmd) := trim_padding_left (List.all_eq_true.mp (by decide))
      _ = key.toList ++ (suffix cmd).rdropWhile isSpace := trim_word hne' hkey _
  rw [parse_bracketed h hdevice, hspace, suffix]
  split
  · next hc =>
    rw [hc, List.rdropWhile_nil, List.append_nil, parse_key hne' hkey, String.ofList_toList]
    rfl
  · have hself : "  →".toList.rdropWhile isSpace = "  →".toList := by decide
    have hcmd : trim isSpace ([' ', ' '] ++ cmd.toList) = trim isSpace cmd.toList :=
      trim_padding_left (List.all_eq_true.mp (by decide))
    have hsplit : "  →  ".toList ++ cmd.toList = "  →".toList ++ ([' ', ' '] ++ cmd.toList) := rfl
    rw [hsplit, rdropWhile_append_self hself, ← List.append_assoc, parse_key_arrow hne' hkey,
      String.ofList_toList, hcmd]

lemma trimmed_of_eq {text : List Char} {field : String}
    (h : String.ofList (trim isSpace text) = field) : trim isSpace text = field.toList := by
  rw [← h, String.toList_ofList]

lemma no_bracket {K : KeyCodes} {ev : InputEvent} {cmd : String} (h : RoundTrips K ev cmd) :
    ']' ∉ ev.deviceId.toList := by
  obtain ⟨line, hline, hparse⟩ := h
  obtain ⟨line', hline', htext⟩ := formatEventLine_eq K ev cmd
  obtain rfl := Except.ok.inj (hline.symm.trans hline')
  intro hdevice
  obtain ⟨first, rest, hsplit, hfirst⟩ := List.eq_append_cons_of_mem hdevice
  rw [hsplit, List.append_assoc] at htext
  rw [parse_bracketed htext hfirst] at hparse
  have hd : String.ofList (trim isSpace first) = ev.deviceId := (device_of_parse hparse).symm
  have hlen := congrArg List.length (trimmed_of_eq hd)
  have hle := length_trim_le (p := isSpace) first
  rw [hsplit, List.length_append, List.length_cons] at hlen
  omega

theorem event_line_round_trip_iff (ev : InputEvent) (cmd : String) : RoundTrips K ev cmd ↔
    ']' ∉ ev.deviceId.toList ∧ Trimmed ev.deviceId ∧ Trimmed cmd := by
  obtain ⟨line, hline, htext⟩ := formatEventLine_eq K ev cmd
  obtain ⟨hne, hkey⟩ := key_chars K ev.code
  constructor
  · intro h
    have hdevice := no_bracket h
    obtain ⟨line', hline', hparse⟩ := h
    obtain rfl := Except.ok.inj (hline.symm.trans hline')
    rw [parse_formatted htext hdevice hne hkey] at hparse
    obtain ⟨hd, -, hc, -⟩ := ParsedLine.mk.inj (Option.some.inj hparse)
    exact ⟨hdevice, trimmed_of_eq hd, trimmed_of_eq hc⟩
  · rintro ⟨hdevice, hd, hc⟩
    refine ⟨line, hline, ?_⟩
    rw [parse_formatted htext hdevice hne hkey, hd, hc, String.ofList_toList, String.ofList_toList]

def padPress : InputEvent where
  deviceId := "pad [1]"
  devicePath := "/dev/input/event3"
  code := 30
  value := keyPress
  timestamp := 0

theorem bracketed_device_cut_short : ¬ RoundTrips inputEventCodes padPress "firefox" :=
  fun h => absurd (no_bracket h) (by decide)

end PointerForce.Bridge.EventLines
