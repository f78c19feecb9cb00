import PointerForce.Bridge.EventLines
import PointerForce.Daemon.EventLoop

/-! The row of the bindings table that the page flashes for an event. The event names the device
that was pressed, while the command may be bound to the wildcard. -/

namespace PointerForce.Bridge.FlashedRow

open Foundations Foundations.FiniteMaps Foundations.Delimiters Daemon Daemon.Mapper Daemon.EventLoop
  Daemon.Observers Daemon.ReportedKeys EventLines

def flashBindingRow (rows : List BindingEntry) (device key : String) : Option BindingEntry :=
  rows.find? fun b => b.deviceId == device && b.keyName == key

structure Carried (deviceId : String) : Prop where
  printable : ∀ c ∈ deviceId.toList, ' ' ≤ c ∧ c ≠ '\x7f'
  no_bracket : ']' ∉ deviceId.toList
  trimmed : Trimmed deviceId

variable (K : KeyCodes)

def Flashes (table : Table) (ev : InputEvent) (cmd : String) : Prop :=
  ∃ line parsed row, formatEventLine (eventLine K ev cmd) = .ok line ∧
    parseEventLine line = some parsed ∧
    flashBindingRow (allBindings K table) parsed.device parsed.key = some row ∧ row.command = cmd

section Rows

variable {K} {table : Table} {ev : InputEvent} {cmd : String}

def readCode : List Char → ℤ
  | '-' :: digits => -Nat.ofDigitChars 10 digits 0
  | digits => Nat.ofDigitChars 10 digits 0

lemma readCode_digits (n : ℕ) : readCode (Nat.toDigits 10 n) = n := by
  have hdigit : ∀ c ∈ Nat.toDigits 10 n, c.isDigit := fun c hc =>
    Nat.isDigit_of_mem_toDigits (by decide) (by decide) hc
  rw [readCode.eq_def]
  split
  · next digits h =>
    have hminus := hdigit '-' (h ▸ List.mem_cons_self)
    cases hminus
  · rw [Nat.ofDigitChars_ten_toDigits]

lemma readCode_repr (code : ℤ) : readCode code.repr.toList = code := by
  cases code with
  | ofNat n => exact (congrArg readCode Nat.toList_repr).trans (readCode_digits n)
  | negSucc n =>
    rw [Int.repr_eq_if, if_neg (by simp), String.toList_append]
    change -(Nat.ofDigitChars 10 (Nat.repr _).toList 0 : ℤ) = _
    rw [Nat.toList_repr, Nat.ofDigitChars_ten_toDigits]
    rfl

lemma codeToName_injective : Function.Injective (codeToName K) := by
  intro a b h
  by_cases ha : Listed K a <;> by_cases hb : Listed K b
  · obtain ⟨name, hname, rfl⟩ := ha
    obtain ⟨name', hname', rfl⟩ := hb
    rw [codeToName_code K hname, codeToName_code K hname'] at h
    rw [h]
  · exact absurd ((codeToName_mem_iff K).mp (h ▸ (codeToName_mem_iff K).mpr ha)) hb
  · exact absurd ((codeToName_mem_iff K).mp (h ▸ (codeToName_mem_iff K).mpr hb)) ha
  · rw [codeToName_unlisted K ha, codeToName_unlisted K hb] at h
    have hl := congrArg String.toList h
    simp only [String.toList_append, List.append_assoc, List.append_cancel_left_eq,
      List.append_cancel_right_eq] at hl
    rw [← readCode_repr a, ← readCode_repr b]
    exact congrArg readCode hl

lemma flashBindingRow_eq_some {deviceId : String} {code : ℤ} {row : BindingEntry}
    (h : flashBindingRow (allBindings K table) deviceId (codeToName K code) = some row) :
    flat table deviceId code = some row.command := by
  have hp := List.find?_some h
  rw [Bool.and_eq_true, beq_iff_eq, beq_iff_eq] at hp
  obtain ⟨hflat, hname⟩ := (mem_allBindings table).mp (List.mem_of_find?_eq_some h)
  have hcode : row.keycode = code := codeToName_injective (hname.symm.trans hp.2)
  rwa [hp.1, hcode] at hflat

lemma flashBindingRow_isSome {deviceId : String} {code : ℤ}
    (h : flat table deviceId code = some cmd) :
    (flashBindingRow (allBindings K table) deviceId (codeToName K code)).isSome := by
  rw [flashBindingRow, List.find?_isSome]
  exact ⟨⟨deviceId, codeToName K code, code, cmd⟩, (mem_allBindings table).mpr ⟨h, rfl⟩, by simp⟩

lemma parsed_event (h : Carried ev.deviceId) (cmd : String) : ∃ line parsed,
    formatEventLine (eventLine K ev cmd) = .ok line ∧ parseEventLine line = some parsed ∧
      parsed.device = ev.deviceId ∧ parsed.key = codeToName K ev.code := by
  obtain ⟨line, hline, htext⟩ := formatEventLine_eq K ev cmd
  obtain ⟨hne, hkey⟩ := key_chars K ev.code
  refine ⟨line, _, hline, parse_formatted htext h.no_bracket hne hkey, ?_, rfl⟩
  rw [h.trimmed, String.ofList_toList]

lemma own_of_flashes (hdevice : Carried ev.deviceId) (h : Flashes K table ev cmd) :
    (flat table ev.deviceId ev.code).isSome := by
  obtain ⟨line, parsed, hline, hparse, hd, hk⟩ := parsed_event (K := K) hdevice cmd
  obtain ⟨line', parsed', row, hline', hparse', hrow, -⟩ := h
  obtain rfl := Except.ok.inj (hline.symm.trans hline')
  obtain rfl := Option.some.inj (hparse.symm.trans hparse')
  rw [hd, hk] at hrow
  rw [flashBindingRow_eq_some hrow, Option.isSome_some]

lemma flashes_of_own (hdevice : Carried ev.deviceId)
    (h : flat table ev.deviceId ev.code = some cmd) : Flashes K table ev cmd := by
  obtain ⟨line, parsed, hline, hparse, hd, hk⟩ := parsed_event (K := K) hdevice cmd
  obtain ⟨row, hrow⟩ := Option.isSome_iff_exists.mp (flashBindingRow_isSome (K := K) h)
  refine ⟨line, parsed, row, hline, hparse, by rw [hd, hk, hrow], ?_⟩
  exact Option.some.inj ((flashBindingRow_eq_some hrow).symm.trans h)

lemma commandIn_own (h : flat table ev.deviceId ev.code = some cmd) : commandIn table ev = cmd := by
  rw [commandIn, lookup_eq, h, Option.some_or, Option.getD_some]

end Rows

theorem fired_row_flashes_iff (table : Table) (ev : InputEvent) (hdevice : Carried ev.deviceId) :
    Flashes K table ev (commandIn table ev) ↔ (flat table ev.deviceId ev.code).isSome := by
  constructor
  · exact own_of_flashes hdevice
  · intro hown
    obtain ⟨cmd, hcmd⟩ := Option.isSome_iff_exists.mp hown
    rw [commandIn_own hcmd]
    exact flashes_of_own hdevice hcmd

def wildcardTable : Table := (∅ : Table).insert wildcard ((∅ : Bindings).insert 30 "firefox")

def mousePress : InputEvent where
  deviceId := "gaming_mouse"
  devicePath := "/dev/input/event3"
  code := 30
  value := keyPress
  timestamp := 0

lemma carried_mouse : Carried mousePress.deviceId where
  printable := List.all_iff_forall_prop.mp (by decide)
  no_bracket := by decide
  trimmed := by
    rw [Trimmed]
    decide

def ownTable : Table := wildcardTable.insert "gaming_mouse" ((∅ : Bindings).insert 30 "gimp")

theorem own_binding_flashes :
    Flashes inputEventCodes ownTable mousePress (commandIn ownTable mousePress) := by
  refine (fired_row_flashes_iff inputEventCodes ownTable mousePress carried_mouse).mpr ?_
  simp [ownTable, mousePress, flat_insert]

theorem wildcard_row_not_flashed : commandIn wildcardTable mousePress = "firefox" ∧
    ¬ Flashes inputEventCodes wildcardTable mousePress "firefox" := by
  have hown : flat wildcardTable mousePress.deviceId mousePress.code = none := by
    simp [wildcardTable, mousePress, flat_insert, wildcard]
  have hwild : flat wildcardTable wildcard mousePress.code = some "firefox" := by
    simp [wildcardTable, mousePress, flat_insert]
  constructor
  · rw [commandIn, lookup_eq, hown, hwild, Option.none_or, Option.getD_some]
  · intro h
    have := own_of_flashes carried_mouse h
    rw [hown] at this
    cases this

end PointerForce.Bridge.FlashedRow
