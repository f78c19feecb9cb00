import PointerForce.Foundations.Json
import PointerForce.Foundations.Lines

/-! The reader of an event stream. Its bytes carry the observer that wrote them, which the reader
does not look at. -/

namespace PointerForce.Bridge.StreamClient

open Foundations Foundations.Lines

structure Sent where
  byte : UInt8
  observer : ℕ
  deriving DecidableEq, Repr

def ends (b : Sent) : Bool := isNewline b.byte

/-- `passed` are the objects that `onEvent` has been called with, each with its line. -/
structure Client where
  consumed : ℕ := 0
  leftover : List Sent := []
  passed : List (Line Sent × Json) := []

variable (C : Codec)

def event (line : Line Sent) : Option (Line Sent × Json) :=
  if line.text.isEmpty then none
  else (C.reader (line.text.map Sent.byte)).map fun event => (line, event)

def passLines (passed : List (Line Sent × Json)) (leftover : List Sent) :
    List (Line Sent × Json) × List Sent :=
  match _h : cut ends leftover with
  | none => (passed, leftover)
  | some (line, leftover) => passLines (passed ++ (event C line).toList) leftover
termination_by leftover.length
decreasing_by exact length_cut ends _h

def receive (client : Client) (buf : List Sent) : Client :=
  let (passed, leftover) := passLines C client.passed (client.leftover ++ buf)
  { consumed := client.consumed + buf.length, leftover, passed }

def passedOf (stream : List Sent) : List (Line Sent × Json) :=
  (lines ends stream).filterMap (event C)

def ownObjects (id : ℕ) (passed : List (Line Sent × Json)) : List Json :=
  (passed.filter fun p => p.1.full.all fun b => b.observer == id).map Prod.snd

structure Reads (client : Client) (stream : List Sent) : Prop where
  consumed : client.consumed ≤ stream.length
  passed : client.passed = passedOf C (stream.take client.consumed)
  leftover : client.leftover = tail ends (stream.take client.consumed)

section Reading

variable {C} {client : Client} {stream : List Sent}

lemma passLines_none {passed : List (Line Sent × Json)} {leftover : List Sent}
    (h : cut ends leftover = none) : passLines C passed leftover = (passed, leftover) := by
  rw [passLines]
  split
  · rfl
  · next hs => rw [h] at hs; cases hs

lemma passLines_some {passed : List (Line Sent × Json)} {leftover rest : List Sent}
    {line : Line Sent} (h : cut ends leftover = some (line, rest)) :
    passLines C passed leftover = passLines C (passed ++ (event C line).toList) rest := by
  rw [passLines]
  split
  · next hs => rw [h] at hs; cases hs
  · next hs =>
    rw [h] at hs
    obtain ⟨rfl, rfl⟩ := Prod.mk.inj (Option.some.inj hs)
    rfl

lemma passLines_eq (passed : List (Line Sent × Json)) (leftover : List Sent) :
    passLines C passed leftover = (passed ++ passedOf C leftover, tail ends leftover) := by
  induction leftover using cut_induction ends generalizing passed with
  | unended leftover h => simp [passLines_none h, passedOf, lines_none h, tail_none h]
  | line leftover line rest h ih =>
    rw [passLines_some h, ih, passedOf, passedOf, lines_some h, tail_some h, List.append_assoc]
    cases he : event C line with
    | none => simp [he]
    | some p => simp [he]

lemma passedOf_append (xs ys : List Sent) :
    passedOf C (xs ++ ys) = passedOf C xs ++ passedOf C (tail ends xs ++ ys) := by
  rw [passedOf, lines_append, List.filterMap_append]
  rfl

lemma reads_start : Reads C {} stream :=
  ⟨Nat.zero_le _, by simp [passedOf], by simp⟩

lemma reads_receive (h : Reads C client stream) {n : ℕ}
    (hn : n ≤ (stream.drop client.consumed).length) :
    Reads C (receive C client ((stream.drop client.consumed).take n)) stream := by
  have hlen : ((stream.drop client.consumed).take n).length = n := List.length_take_of_le hn
  have htake : stream.take (client.consumed + n) =
      stream.take client.consumed ++ (stream.drop client.consumed).take n := List.take_add
  rw [List.length_drop] at hn
  have hc := h.consumed
  constructor
  · simp only [receive, hlen]
    omega
  · simp only [receive, passLines_eq, hlen]
    rw [h.passed, h.leftover, htake, passedOf_append (stream.take client.consumed)]
  · simp only [receive, passLines_eq, hlen]
    rw [h.leftover, htake, tail_append (stream.take client.consumed)]

lemma reads_append (h : Reads C client stream) (sent : List Sent) :
    Reads C client (stream ++ sent) := by
  have htake : (stream ++ sent).take client.consumed = stream.take client.consumed :=
    List.take_append_of_le_length h.consumed
  refine ⟨?_, by rw [htake, h.passed], by rw [htake, h.leftover]⟩
  exact h.consumed.trans (by simp)

lemma ownObjects_append (id : ℕ) (ps qs : List (Line Sent × Json)) :
    ownObjects id (ps ++ qs) = ownObjects id ps ++ ownObjects id qs := by
  simp [ownObjects]

lemma line_of_event {line : Line Sent} {p : Line Sent × Json} (h : event C line = some p) :
    p.1 = line := by
  rw [event] at h
  split at h
  · cases h
  · obtain ⟨v, -, rfl⟩ := Option.map_eq_some_iff.mp h
    rfl

lemma event_of_text {line : Line Sent} {v : Json} (hne : line.text ≠ [])
    (hv : C.reader (line.text.map Sent.byte) = some v) : event C line = some (line, v) := by
  rw [event, if_neg (by simpa using hne), hv]
  rfl

lemma ownObjects_of_all {line : Line Sent} {v : Json} {id : ℕ}
    (h : ∀ b ∈ line.full, b.observer = id) : ownObjects id [(line, v)] = [v] := by
  have hown : line.full.all (fun b => b.observer == id) = true :=
    List.all_eq_true.mpr fun b hb => beq_iff_eq.mpr (h b hb)
  simp [ownObjects, hown]

lemma ownObjects_of_last {ps : List (Line Sent × Json)} {id : ℕ}
    (h : ∀ p ∈ ps, p.1.last.observer ≠ id) : ownObjects id ps = [] := by
  rw [ownObjects, List.filter_eq_nil_iff.mpr, List.map_nil]
  intro p hp hall
  have hlast := List.all_eq_true.mp hall p.1.last (by simp [Line.full])
  exact h p hp (beq_iff_eq.mp hlast)

lemma ownObjects_absent {id : ℕ} (h : ∀ b ∈ stream, b.observer ≠ id) :
    ownObjects id (passedOf C stream) = [] := by
  refine ownObjects_of_last fun p hp => ?_
  obtain ⟨line, hline, he⟩ := List.mem_filterMap.mp hp
  rw [line_of_event he]
  refine h _ ?_
  rw [← flatMap_lines_append_tail stream]
  exact List.mem_append_left _ (List.mem_flatMap.mpr ⟨line, hline, by simp [Line.full]⟩)

lemma passedOf_unended {sent : List Sent} (h : ∀ b ∈ sent, ends b = false) :
    passedOf C (stream ++ sent) = passedOf C stream := by
  rw [passedOf, (append_unended stream h).1]
  rfl

lemma passedOf_ended {text : List Sent} (h : ∀ b ∈ text, ends b = false) {b : Sent}
    (hb : ends b = true) : passedOf C (stream ++ (text ++ [b])) =
      passedOf C stream ++ (event C ⟨tail ends stream ++ text, b⟩).toList := by
  rw [passedOf, (append_ended stream h hb).1, List.filterMap_append]
  cases he : event C ⟨tail ends stream ++ text, b⟩ with
  | none => simp [he, passedOf]
  | some p => simp [he, passedOf]

lemma ownObjects_begins (h : Reads C client stream) (id : ℕ) :
    ownObjects id client.passed <+: ownObjects id (passedOf C stream) := by
  have hstream := passedOf_append (C := C) (stream.take client.consumed)
    (stream.drop client.consumed)
  rw [List.take_append_drop] at hstream
  rw [h.passed, hstream, ownObjects_append]
  exact List.prefix_append _ _

lemma passed_of_all_read (h : Reads C client stream) (hall : client.consumed = stream.length) :
    client.passed = passedOf C stream := by
  rw [h.passed, hall, List.take_length]

end Reading

end PointerForce.Bridge.StreamClient
