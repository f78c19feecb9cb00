import PointerForce.Bridge.EventLines
import PointerForce.Foundations.EventWeights
import PointerForce.Foundations.Runs

/-! The response of the bridge to a page that asks for the events: the lines that wait in a queue
are sent as Server-Sent Events, one for each call of the stream callback, and a comment when none
waits. -/

namespace PointerForce.Bridge.EventResponse

open Foundations Foundations.Runs Foundations.ServerSentEvents EventLines

structure Removed where
  line : String
  -- false for a line that has made room for others
  sent : Bool
  deriving DecidableEq, Repr

/-- `queued` are all lines ever put into the queue, `removed` those that have left it. -/
structure EventStreamState where
  queue : List String := []
  output : Bytes := []
  queued : List String := []
  removed : List Removed := []

inductive Action where
  | push (event : Json)
  | call (maxLen : ℕ)

namespace EventStreamState

variable (s : EventStreamState)

def popFront (sent : Bool) : EventStreamState :=
  { s with queue := s.queue.tail,
           removed := s.removed ++ (s.queue.head?.map fun line => ⟨line, sent⟩).toList }

def pushBack (line : String) : EventStreamState :=
  { s with queue := s.queue ++ [line], queued := s.queued ++ [line] }

def chunk : Bytes :=
  match s.queue.head? with
  | some line => utf8 "data: " ++ utf8 line ++ [newline, newline]
  | none => utf8 ": keep-alive\n\n"

def write (bytes : Bytes) : EventStreamState := { s with output := s.output ++ bytes }

def sent : List String := (s.removed.filter Removed.sent).map Removed.line

end EventStreamState

def step (s : EventStreamState) : Action → Option EventStreamState
  | .push event =>
    match formatEventLine event with
    | .ok line => some ((if s.queue.length > 500 then s.popFront false else s).pushBack line)
    | .error _ => none
  | .call maxLen =>
    if maxLen = 0 then none else some ((s.popFront true).write (s.chunk.take maxLen))

def pushedLine : Action → Option String
  | .push event => (formatEventLine event).toOption
  | .call _ => none

def taken (s : EventStreamState) : Action → List String
  | .push _ => []
  | .call _ => s.queue.head?.toList

def Whole (s : EventStreamState) : Action → Prop
  | .push _ => True
  | .call maxLen => ∀ line ∈ s.queue.head?, OneLine (utf8 line) ∧ s.chunk.length ≤ maxLen ∧
      (s.output = [] ∨ s.output.getLast? = some newline)

def Uncapped (s : EventStreamState) : Action → Prop
  | .push _ => s.queue.length ≤ 500
  | .call _ => True

structure Inv (s : EventStreamState) : Prop where
  idle : Idle (read {} s.output)
  decoded : decode s.output = s.sent.map utf8
  accounted : s.removed.map Removed.line ++ s.queue = s.queued

section Steps

variable {s t : EventStreamState} {a : Action}

lemma accounted_popFront (h : s.removed.map Removed.line ++ s.queue = s.queued) (sent : Bool) :
    (s.popFront sent).removed.map Removed.line ++ (s.popFront sent).queue = s.queued := by
  rw [← h]
  cases hq : s.queue with
  | nil => simp [EventStreamState.popFront, hq]
  | cons line queue => simp [EventStreamState.popFront, hq]

lemma accounted_pushBack (h : s.removed.map Removed.line ++ s.queue = s.queued) (line : String) :
    (s.pushBack line).removed.map Removed.line ++ (s.pushBack line).queue =
      (s.pushBack line).queued := by
  rw [EventStreamState.pushBack, ← List.append_assoc, h]

lemma sent_popFront (sent : Bool) : (s.popFront sent).sent =
    s.sent ++ if sent then s.queue.head?.toList else [] := by
  cases hq : s.queue with
  | nil => simp [EventStreamState.popFront, EventStreamState.sent, hq]
  | cons line queue => cases sent <;> simp [EventStreamState.popFront, EventStreamState.sent, hq]

lemma chunk_nil (hq : s.queue = []) : s.chunk = comment (utf8 " keep-alive") := by
  rw [EventStreamState.chunk, hq]
  decide

lemma chunk_cons {line : String} {queue : List String} (hq : s.queue = line :: queue) :
    s.chunk = event (utf8 line) := by
  rw [EventStreamState.chunk, hq]
  rfl

lemma inv_start : Inv {} := ⟨⟨rfl, rfl, .inl rfl⟩, rfl, rfl⟩

lemma inv_pushBack (hi : Inv s) (line : String) : Inv (s.pushBack line) :=
  ⟨hi.idle, hi.decoded, accounted_pushBack hi.accounted line⟩

lemma inv_drop (hi : Inv s) : Inv (s.popFront false) := by
  refine ⟨hi.idle, ?_, accounted_popFront hi.accounted false⟩
  rw [sent_popFront, if_neg Bool.false_ne_true, List.append_nil]
  exact hi.decoded

lemma read_output (s : EventStreamState) (bytes : Bytes) :
    read {} (s.write bytes).output = read (read {} s.output) bytes :=
  read_append {} s.output bytes

lemma inv_keepAlive (hi : Inv s) (hq : s.queue = []) (maxLen : ℕ) :
    Inv ((s.popFront true).write (s.chunk.take maxLen)) := by
  have hline : OneLine (utf8 " keep-alive") := by decide
  obtain ⟨hidle, hevents⟩ := idle_comment hi.idle hline maxLen
  rw [← chunk_nil hq] at hidle hevents
  have hsent : (s.popFront true).sent = s.sent := by
    rw [sent_popFront, hq]
    exact List.append_nil _
  refine ⟨?_, ?_, accounted_popFront hi.accounted true⟩
  · rwa [read_output]
  · rw [decode, read_output]
    exact hevents.trans (hi.decoded.trans (congrArg _ hsent.symm))

lemma inv_send (hi : Inv s) {line : String} {queue : List String} (hq : s.queue = line :: queue)
    {maxLen : ℕ} (hg : Whole s (.call maxLen)) :
    Inv ((s.popFront true).write (s.chunk.take maxLen)) := by
  obtain ⟨hline, hfits, hended⟩ := hg line (by simp [hq])
  have hopen : (read {} s.output).line = [] := by
    rcases hended with he | hlast
    · rw [he]
      rfl
    · exact line_of_newline hlast
  have hread := read_event hi.idle hopen hline
  have hsent : ((s.popFront true).write (event (utf8 line))).sent = s.sent ++ [line] :=
    (sent_popFront true).trans (by rw [hq]; rfl)
  rw [List.take_of_length_le hfits, chunk_cons hq]
  refine ⟨?_, ?_, accounted_popFront hi.accounted true⟩
  · rw [read_output]
    exact hread ▸ ⟨hi.idle.returned, hi.idle.data, hi.idle.line⟩
  · rw [decode, read_output]
    rw [hsent, List.map_append, ← hi.decoded]
    exact congrArg Decoder.events hread

lemma step_cases (h : step s a = some t) :
    (∃ event line, a = .push event ∧ formatEventLine event = .ok line ∧
      t = (if s.queue.length > 500 then s.popFront false else s).pushBack line) ∨
    ∃ maxLen, a = .call maxLen ∧ t = (s.popFront true).write (s.chunk.take maxLen) := by
  rw [step.eq_def] at h
  cases a with
  | push event =>
    simp only at h
    split at h
    · next line hline => exact .inl ⟨event, line, rfl, hline, (Option.some.inj h).symm⟩
    · cases h
  | call maxLen =>
    obtain ⟨-, h⟩ := Option.ite_none_left_eq_some.mp h
    exact .inr ⟨maxLen, rfl, (Option.some.inj h).symm⟩

lemma queued_step (h : step s a = some t) : t.queued = s.queued ++ (pushedLine a).toList := by
  obtain ⟨event, line, rfl, hline, rfl⟩ | ⟨maxLen, rfl, rfl⟩ := step_cases h
  · rw [pushedLine, hline]
    split <;> rfl
  · exact (List.append_nil _).symm

lemma sent_step (h : step s a = some t) : t.sent = s.sent ++ taken s a := by
  obtain ⟨event, line, rfl, -, rfl⟩ | ⟨maxLen, rfl, rfl⟩ := step_cases h
  · rw [taken, List.append_nil]
    split
    · exact (sent_popFront false).trans (List.append_nil _)
    · rfl
  · exact sent_popFront true

lemma queued_run {as : List Action} (h : exec step {} as = some t) :
    t.queued = as.filterMap pushedLine := by
  induction as using List.reverseRecOn generalizing t with
  | nil =>
    obtain rfl := Option.some.inj h
    rfl
  | append_singleton as a ih =>
    obtain ⟨u, hu, ht⟩ := exec_concat.mp h
    rw [queued_step ht, ih hu, List.filterMap_append]
    cases ha : pushedLine a <;> simp [ha]

lemma sent_run {as : List Action} (h : exec step {} as = some t) :
    t.sent = observed step taken {} as := by
  induction as using List.reverseRecOn generalizing t with
  | nil =>
    obtain rfl := Option.some.inj h
    rfl
  | append_singleton as a ih =>
    obtain ⟨u, hu, ht⟩ := exec_concat.mp h
    rw [sent_step ht, ih hu, observed_concat hu]

lemma inv_step (hi : Inv s) (hg : Whole s a) (h : step s a = some t) : Inv t := by
  obtain ⟨event, line, rfl, -, rfl⟩ | ⟨maxLen, rfl, rfl⟩ := step_cases h
  · refine inv_pushBack ?_ line
    split
    · exact inv_drop hi
    · exact hi
  · cases hq : s.queue with
    | nil => exact inv_keepAlive hi hq maxLen
    | cons line queue => exact inv_send hi hq hg

lemma all_sent_step (hs : ∀ r ∈ s.removed, r.sent) (hg : Uncapped s a) (h : step s a = some t) :
    ∀ r ∈ t.removed, r.sent := by
  obtain ⟨event, line, rfl, -, rfl⟩ | ⟨maxLen, rfl, rfl⟩ := step_cases h
  · rw [if_neg (Nat.not_lt.mpr hg)]
    exact hs
  · intro r hr
    rcases List.mem_append.mp hr with hr | hr
    · exact hs r hr
    · obtain ⟨line, -, rfl⟩ := Option.map_eq_some_iff.mp (Option.mem_toList.mp hr)
      rfl

theorem not_decoded_of_not_whole (hi : Inv s) (h : step s a = some t) (hn : ¬ Whole s a) :
    decode t.output ≠ t.sent.map utf8 := by
  obtain ⟨event, line, rfl, -, rfl⟩ | ⟨maxLen, rfl, rfl⟩ := step_cases h
  · exact absurd trivial hn
  · intro hdecoded
    refine hn fun line hline => ?_
    obtain ⟨queue, hq⟩ := List.head?_eq_some_iff.mp hline
    have hsent : ((s.popFront true).write (s.chunk.take maxLen)).sent = s.sent ++ [line] :=
      (sent_popFront true).trans (by rw [hq]; rfl)
    have hclean : Clean (read {} s.output) := clean_read clean_start s.output
    rw [hsent, List.map_append, ← hi.decoded, decode, read_output, chunk_cons hq] at hdecoded
    obtain ⟨hopen, honeLine, hfits⟩ := chunk_of_event hi.idle hclean hdecoded
    rw [chunk_cons hq]
    exact ⟨honeLine, hfits, newline_of_line hi.idle.returned hopen⟩

end Steps

theorem response_decodes (as : List Action) (t : EventStreamState) (hrun : exec step {} as = some t)
    (hwhole : Guarded step Whole {} as) :
    decode t.output = t.sent.map utf8 ∧ t.removed.map Removed.line ++ t.queue = t.queued ∧
      t.sent = observed step taken {} as ∧ t.queued = as.filterMap pushedLine ∧
      (Guarded step Uncapped {} as →
        decode t.output ++ t.queue.map utf8 = t.queued.map utf8) := by
  have hi : Inv t := guarded_invariant (fun _ _ _ => inv_step) inv_start hwhole hrun
  refine ⟨hi.decoded, hi.accounted, sent_run hrun, queued_run hrun, fun hcap => ?_⟩
  have hall : ∀ r ∈ t.removed, r.sent :=
    @guarded_invariant _ _ step Uncapped _ _ _ (fun s => ∀ r ∈ s.removed, r.sent)
      (fun _ _ _ => all_sent_step) (by simp) hcap hrun
  have hsent : t.sent = t.removed.map Removed.line := by
    rw [EventStreamState.sent, List.filter_eq_self.mpr hall]
  rw [hi.decoded, ← hi.accounted, hsent, List.map_append]

def sidePress (command : String) : Json :=
  .object [("device", .string "mouse"), ("key", .string "BTN_SIDE"), ("command", .string command)]

def twoPresses : List Action :=
  [.call 5, .call 14, .push (sidePress "firefox"), .push (sidePress ""), .call 4096, .call 64]

theorem two_presses_decoded : (∃ t, exec step {} twoPresses = some t) ∧
    ∀ t, exec step {} twoPresses = some t →
      decode t.output = t.sent.map utf8 ∧
        t.sent = ["[mouse] BTN_SIDE  →  firefox", "[mouse] BTN_SIDE"] := by
  refine ⟨⟨_, rfl⟩, fun t ht => ⟨(response_decodes twoPresses t ht ?_).1, ?_⟩⟩
  · iterate 2 refine guarded_cons (by rintro line ⟨⟩) rfl ?_
    iterate 2 refine guarded_cons trivial rfl ?_
    iterate 2 refine guarded_cons (by rw [Whole]; decide) rfl ?_
    trivial
  · exact exec_all (p := fun t => t.sent = ["[mouse] BTN_SIDE  →  firefox", "[mouse] BTN_SIDE"])
      (by decide) ht

theorem command_line_lost : ¬ ∀ (as : List Action) (t : EventStreamState),
    exec step {} as = some t → decode t.output ++ t.queue.map utf8 = t.queued.map utf8 := by
  intro hall
  obtain ⟨t, ht⟩ : ∃ t, exec step {} [.push (sidePress "cd /tmp\nfirefox"), .call 4096] = some t :=
    ⟨_, rfl⟩
  have hlost := exec_all (p := fun t => decode t.output ++ t.queue.map utf8 ≠ t.queued.map utf8)
    (by decide) ht
  exact hlost (hall _ t ht)

end PointerForce.Bridge.EventResponse
