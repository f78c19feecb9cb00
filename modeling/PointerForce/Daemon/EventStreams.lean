import PointerForce.Bridge.StreamClient
import PointerForce.Daemon.EventLoop
import PointerForce.Daemon.Registrations

/-! The event streams, from the notify steps of the multiplexer to the clients that read them. -/

namespace PointerForce.Daemon.EventStreams

open Foundations Foundations.Lines Foundations.Runs Bridge.StreamClient Mapper Observers Registrations
open EventLoop (commandIn)

structure Notified where
  ev : InputEvent
  table : Table
  local' : List Observer

structure State where
  observers : Observers.State := {}
  notified : List Notified := []
  client : ℕ → Client := fun _ => {}

inductive Action where
  | notify (ev : InputEvent) (table : Table)
  | observers (a : Observers.Action)
  | read (c n : ℕ)

variable (C : Codec) (K : KeyCodes)

def boundCommand (table : Table) (ev : InputEvent) : String :=
  if ev.value = keyPress then commandIn table ev else ""

def sent (w : Write) : List Sent := w.bytes.map fun b => ⟨b, w.observer⟩

def stream (s : Observers.State) (c : ℕ) : List Sent :=
  (s.writes.filter fun w => w.connection = c).flatMap sent

def step (s : State) : Action → Option State
  | .notify ev table =>
    (Observers.step C K s.observers (.notify ev (boundCommand table ev))).map fun observers =>
      { s with observers, notified := s.notified ++ [⟨ev, table, s.observers.observers⟩] }
  | .observers (.notify _ _) => none
  | .observers a =>
    if reliable s.observers a then
      (Observers.step C K s.observers a).map fun observers => { s with observers }
    else none
  | .read c n =>
    let unread := (stream s.observers c).drop (s.client c).consumed
    if 0 < n ∧ n ≤ 1024 ∧ n ≤ unread.length then
      some { s with
        client := Function.update s.client c (receive C (s.client c) (unread.take n)) }
    else none

def Recipient (ev : InputEvent) (local' : List Observer) (id : ℕ) : Prop :=
  ev.value = keyPress ∧ id ∈ local'.map Observer.id

instance (ev : InputEvent) (local' : List Observer) (id : ℕ) : Decidable (Recipient ev local' id) :=
  inferInstanceAs (Decidable (_ ∧ _))

def expected (notified : List Notified) (id : ℕ) : List Json :=
  (notified.filter fun n => Recipient n.ev n.local' id).map fun n =>
    eventLine K n.ev (commandIn n.table n.ev)

def pressObject (ev : InputEvent) (command : String) : Json :=
  .object [("code", .int ev.code), ("command", .string command), ("device", .string ev.deviceId),
    ("key", .string (codeToName K ev.code)), ("path", .string ev.devicePath),
    ("type", .string "event")]

/-- What a notify step owes to this observer of a connection. -/
def owed (c fd id : ℕ) (s : State) : Action → List Json
  | .notify ev table =>
    if ev.value = 1 ∧ s.observers.handler c = some (.subscribed fd id) then
      [pressObject K ev ((lookup table ev.deviceId ev.code).getD "")]
    else []
  | _ => []

def LineReads (v : Json) : Prop :=
  ∃ text, C.fastWriter v = text ++ [newline] ∧ text ≠ [] ∧ newline ∉ text ∧ C.reader text = some v

def stillDue (ev : InputEvent) (cmd : String) (local' : List Observer) (id : ℕ) : List Json :=
  if Recipient ev local' id then [eventLine K ev cmd] else []

def unfinished : Notify → ℕ → List Json
  | .idle, _ => []
  | .calling ev cmd local', id => stillDue K ev cmd local' id
  | .writing ev cmd o _ local', id => stillDue K ev cmd (o :: local') id

def Readable : Notify → Prop
  | .idle => True
  | .calling ev cmd _ => ev.value = keyPress → LineReads C (eventLine K ev cmd)
  | .writing ev cmd _ line _ => ev.value = keyPress ∧ LineReads C (eventLine K ev cmd) ∧
      line ≠ [] ∧ line <:+ C.fastWriter (eventLine K ev cmd)

def Unended (handler : Option Handler) (fd : ℕ) (rest : List Sent) : Notify → Prop
  | .writing ev cmd o line _ => (∀ b ∈ rest, b.observer = o.id) ∧ (rest ≠ [] → o.fd = fd) ∧
      (handler = some (.subscribed fd o.id) →
        rest.map Sent.byte ++ line = C.fastWriter (eventLine K ev cmd))
  | _ => rest = []

structure Streams (s : Observers.State) : Prop where
  registry : Registry s
  written : ∀ w ∈ s.writes, s.handler w.connection ≠ none ∧ w.observer < s.nextObsId
  readable : Readable C K s.notify
  unended : ∀ c fd, s.fds fd = some c → s.hungUp c = false →
    Unended C K (s.handler c) fd (tail ends (stream s c)) s.notify

def Delivered (s : Observers.State) (notified : List Notified) : Prop :=
  ∀ c fd id, s.handler c = some (.subscribed fd id) → s.hungUp c = false →
    ownObjects id (passedOf C (stream s c)) ++ unfinished K s.notify id = expected K notified id

structure Inv (s : State) : Prop where
  streams : Streams C K s.observers
  snapshots : ∀ n ∈ s.notified, ∀ o ∈ n.local', o.id < s.observers.nextObsId
  delivered : Delivered C K s.observers s.notified
  clients : ∀ c, Reads C (s.client c) (stream s.observers c)

section Bytes

variable {C K} {s t : Observers.State} {a : Observers.Action}

lemma mem_stream {c : ℕ} {b : Sent} (h : b ∈ stream s c) :
    ∃ w ∈ s.writes, w.connection = c ∧ b.observer = w.observer := by
  obtain ⟨w, hw, hb⟩ := List.mem_flatMap.mp h
  obtain ⟨hw, hc⟩ := List.mem_filter.mp hw
  obtain ⟨byte, -, rfl⟩ := List.mem_map.mp hb
  exact ⟨w, hw, by simpa using hc, rfl⟩

lemma stream_unaccepted (hs : Streams C K s) {c : ℕ} (hc : s.handler c = none) :
    stream s c = [] := by
  refine List.eq_nil_iff_forall_not_mem.mpr fun b hb => ?_
  obtain ⟨w, hw, rfl, -⟩ := mem_stream hb
  exact (hs.written w hw).1 hc

lemma stream_of_same (hw : t.writes = s.writes) (c : ℕ) : stream t c = stream s c := by
  rw [stream, stream, hw]

lemma stream_append {w : Write} (hw : t.writes = s.writes ++ [w]) (c : ℕ) :
    stream t c = stream s c ++ if w.connection = c then sent w else [] := by
  rw [stream, stream, hw, List.filter_append, List.flatMap_append]
  split
  · next hc => simp [hc]
  · next hc => simp [hc]

end Bytes

section Lines

variable {C K} {s t : Observers.State} {ev : InputEvent} {cmd : String} {line text : Bytes}

lemma suffix_of_line (hs : line <:+ text ++ [newline]) (hl : line ≠ []) :
    ∃ rest, line = rest ++ [newline] ∧ rest <:+ text := by
  obtain ⟨before, hb⟩ := hs
  rcases List.eq_nil_or_concat line with rfl | ⟨rest, b, rfl⟩
  · exact absurd rfl hl
  · rw [List.concat_eq_append, ← List.append_assoc] at hb
    obtain ⟨htext, hlast⟩ := List.append_inj' hb rfl
    exact ⟨rest, by rw [List.concat_eq_append, hlast], before, htext⟩

lemma take_unended (hs : line <:+ text ++ [newline]) (hl : line ≠ []) (ht : newline ∉ text) {n : ℕ}
    (hn : n < line.length) : newline ∉ line.take n := by
  obtain ⟨rest, rfl, hrest⟩ := suffix_of_line hs hl
  have hle : n ≤ rest.length := by
    rw [List.length_append, List.length_singleton] at hn
    omega
  rw [List.take_append_of_le_length hle]
  intro hmem
  exact ht (hrest.subset (List.mem_of_mem_take hmem))

lemma sending_more {o : Observer} {local' : List Observer} (h : line ≠ []) :
    sending ev cmd o local' line = .writing ev cmd o line local' := by
  cases line with
  | nil => exact absurd rfl h
  | cons b line => rfl

lemma ends_sent {bytes : Bytes} (h : newline ∉ bytes) (id : ℕ) :
    ∀ b ∈ bytes.map (fun b => (⟨b, id⟩ : Sent)), ends b = false := by
  intro b hb
  obtain ⟨byte, hbyte, rfl⟩ := List.mem_map.mp hb
  have hne : byte ≠ newline := by
    rintro rfl
    exact h hbyte
  simpa [ends, isNewline] using hne

lemma map_byte_sent (bytes : Bytes) (id : ℕ) :
    (bytes.map fun b => (⟨b, id⟩ : Sent)).map Sent.byte = bytes := by
  rw [List.map_map]
  exact List.map_id _

lemma stillDue_other {o : Observer} {local' : List Observer} {id : ℕ} (h : o.id ≠ id) :
    stillDue K ev cmd (o :: local') id = stillDue K ev cmd local' id := by
  have hiff : Recipient ev (o :: local') id ↔ Recipient ev local' id := by
    simp [Recipient, h.symm]
  simp only [stillDue, hiff]

lemma stillDue_own {o : Observer} {local' : List Observer} (hv : ev.value = keyPress) :
    stillDue K ev cmd (o :: local') o.id = [eventLine K ev cmd] :=
  if_pos ⟨hv, List.mem_cons_self⟩

lemma stillDue_absent {local' : List Observer} {id : ℕ} (h : ∀ o ∈ local', o.id ≠ id) :
    stillDue K ev cmd local' id = [] := by
  refine if_neg ?_
  rintro ⟨-, hmem⟩
  obtain ⟨o, ho, hid⟩ := List.mem_map.mp hmem
  exact h o ho hid

lemma unfinished_absent {n : Notify} {id : ℕ} (h : ∀ o ∈ n.inUse, o.id ≠ id) :
    unfinished K n id = [] := by
  cases n with
  | idle => rfl
  | calling ev cmd local' => exact stillDue_absent h
  | writing ev cmd o line local' => exact stillDue_absent h

lemma expected_append (notified : List Notified) (n : Notified) (id : ℕ) :
    expected K (notified ++ [n]) id =
      expected K notified id ++ stillDue K n.ev (commandIn n.table n.ev) n.local' id := by
  rw [expected, expected, List.filter_append, List.map_append, stillDue]
  split
  · next h => simp [h]
  · next h => simp [h]

lemma expected_absent {notified : List Notified} {id : ℕ}
    (h : ∀ n ∈ notified, ∀ o ∈ n.local', o.id ≠ id) : expected K notified id = [] := by
  rw [expected, List.filter_eq_nil_iff.mpr, List.map_nil]
  intro n hn
  rw [decide_eq_true_eq]
  rintro ⟨-, hmem⟩
  obtain ⟨o, ho, hid⟩ := List.mem_map.mp hmem
  exact h n hn o ho hid

end Lines

section Written

variable {C K} {s t : Observers.State} {a : Observers.Action}

lemma written_step (hs : Streams C K s) (h : Stepped C K s a t) :
    ∀ w ∈ t.writes, t.handler w.connection ≠ none ∧ w.observer < t.nextObsId := by
  intro w hw
  have hold : w ∈ s.writes → t.handler w.connection ≠ none ∧ w.observer < t.nextObsId := by
    intro hmem
    obtain ⟨hc, hid⟩ := hs.written w hmem
    exact ⟨handler_stepped h hc, hid.trans_le (nextObsId_stepped h)⟩
  cases h with
  | @write ev cmd o line local' c n hn hf hpos hle =>
    rcases List.mem_append.mp hw with hw | hw
    · exact hold hw
    · obtain rfl := List.mem_singleton.mp hw
      obtain ⟨h, hh, -⟩ := hs.registry.held c o.fd hf
      exact ⟨by simp [hh], hs.registry.given o (.inr (inUse_writing hn))⟩
  | accept | events | hangUp | readFails | removeObserver | close | terminate | notify | call
  | writeFails | returns => exact hold hw

lemma readable_sending {ev : InputEvent} {cmd : String} {o : Observer} {local' : List Observer}
    {line : Bytes} (hv : ev.value = keyPress) (hl : LineReads C (eventLine K ev cmd))
    (hs : line <:+ C.fastWriter (eventLine K ev cmd)) :
    Readable C K (sending ev cmd o local' line) := by
  cases line with
  | nil => exact fun _ => hl
  | cons b line => exact ⟨hv, hl, by simp, hs⟩

lemma readable_step (hs : Streams C K s) (h : Stepped C K s a t)
    (hnew : ∀ ev cmd, a = .notify ev cmd → ev.value = keyPress → LineReads C (eventLine K ev cmd)) :
    Readable C K t.notify := by
  have hr := hs.readable
  cases h with
  | @notify ev cmd hn => exact hnew ev cmd rfl
  | @call ev cmd o local' hn =>
    rw [hn] at hr
    simp only [callObserver]
    split
    · exact hr
    · next hskip =>
      have hv : ev.value = keyPress := by
        rw [not_or, not_not] at hskip
        exact hskip.2
      exact readable_sending hv (hr hv) (List.suffix_refl _)
  | @write ev cmd o line local' c n hn hf hpos hle =>
    rw [hn] at hr
    obtain ⟨hv, hl, -, hsuf⟩ := hr
    exact readable_sending hv hl ((List.drop_suffix n line).trans hsuf)
  | writeFails hn =>
    rw [hn] at hr
    exact fun _ => hr.2.1
  | returns hn => trivial
  | accept | events | hangUp | readFails | removeObserver | close | terminate => exact hr

lemma unended_frame (hs : Streams C K s) (h : Stepped C K s a t) (hn : t.notify = s.notify)
    (hw : t.writes = s.writes) {c fd : ℕ} (hf : t.fds fd = some c) (hu : t.hungUp c = false) :
    Unended C K (t.handler c) fd (tail ends (stream t c)) t.notify := by
  have hsame : ∀ o ∈ s.notify.inUse, t.handler c = some (.subscribed fd o.id) →
      s.handler c = some (.subscribed fd o.id) := by
    intro o ho ht
    rcases subscribed_stepped h ht with hold | ⟨hid, -, -⟩
    · exact hold
    · exact absurd hid (hs.registry.given o (.inr ho)).ne
  rw [stream_of_same hw, hn]
  rcases fds_stepped h hf with hf | hfresh
  · have hold := hs.unended c fd hf (hungUp_stepped h hu)
    cases hnotify : s.notify with
    | writing ev cmd o line local' =>
      rw [hnotify] at hold hsame
      obtain ⟨htag, hat, hown⟩ := hold
      exact ⟨htag, hat, fun ht => hown (hsame o List.mem_cons_self ht)⟩
    | idle | calling => rwa [hnotify] at hold
  · rw [stream_unaccepted hs hfresh, tail_nil]
    cases hnotify : s.notify with
    | writing ev cmd o line local' =>
      rw [hnotify] at hsame
      refine ⟨by simp, by simp, fun ht => ?_⟩
      have hold := hsame o List.mem_cons_self ht
      rw [hfresh] at hold
      cases hold
    | idle | calling => rfl

section Write

variable {ev : InputEvent} {cmd : String} {o : Observer} {line : Bytes} {local' : List Observer}
  {c c' fd id n : ℕ}

lemma tail_elsewhere (hs : Streams C K s) (hn : s.notify = .writing ev cmd o line local')
    (hf : s.fds o.fd ≠ some c) (hfd : s.fds fd = some c) (hu : s.hungUp c = false) :
    tail ends (stream s c) = [] := by
  have hold := hs.unended c fd hfd hu
  rw [hn] at hold
  by_contra hne
  rw [hold.2.1 hne] at hf
  exact hf hfd

lemma part_unended (hs : Streams C K s) (hn : s.notify = .writing ev cmd o line local')
    (hlt : n < line.length) :
    ∀ b ∈ (line.take n).map (fun b => (⟨b, o.id⟩ : Sent)), ends b = false := by
  have hr := hs.readable
  rw [hn] at hr
  obtain ⟨-, ⟨text, htext, -, hnl, -⟩, hl, hsuf⟩ := hr
  rw [htext] at hsuf
  exact ends_sent (take_unended hsuf hl hnl hlt) o.id

lemma unended_part (hs : Streams C K s) (hn : s.notify = .writing ev cmd o line local')
    (hf : s.fds o.fd = some c) (hlt : n < line.length) (hu : s.hungUp c = false) :
    Unended C K (s.handler c) o.fd
      (tail ends (stream s c ++ (line.take n).map fun b => ⟨b, o.id⟩))
      (.writing ev cmd o (line.drop n) local') := by
  have hold := hs.unended c o.fd hf hu
  rw [hn] at hold
  obtain ⟨htag, -, hown⟩ := hold
  rw [(append_unended (stream s c) (part_unended hs hn hlt)).2]
  refine ⟨fun b hb => ?_, fun _ => rfl, fun hsub => ?_⟩
  · rcases List.mem_append.mp hb with hb | hb
    · exact htag b hb
    · obtain ⟨byte, -, rfl⟩ := List.mem_map.mp hb
      rfl
  · rw [List.map_append, map_byte_sent, List.append_assoc, List.take_append_drop]
    exact hown hsub

lemma stream_whole (hs : Streams C K s) (hn : s.notify = .writing ev cmd o line local') :
    ∃ last : List Sent,
      (∀ b ∈ last, ends b = false ∧ b.observer = o.id) ∧
      line = last.map Sent.byte ++ [newline] ∧
      line.map (fun b => (⟨b, o.id⟩ : Sent)) = last ++ [⟨newline, o.id⟩] := by
  have hr := hs.readable
  rw [hn] at hr
  obtain ⟨-, ⟨text, htext, -, hnl, -⟩, hl, hsuf⟩ := hr
  rw [htext] at hsuf
  obtain ⟨rest, rfl, hrest⟩ := suffix_of_line hsuf hl
  refine ⟨rest.map fun b => ⟨b, o.id⟩, fun b hb => ⟨?_, ?_⟩, ?_, List.map_append⟩
  · exact ends_sent (fun hmem => hnl (hrest.subset hmem)) o.id b hb
  · obtain ⟨byte, -, rfl⟩ := List.mem_map.mp hb
    rfl
  · rw [map_byte_sent]

lemma unended_write (hs : Streams C K s) (hn : s.notify = .writing ev cmd o line local')
    (hf : s.fds o.fd = some c) (hw : t.writes = s.writes ++ [⟨o.id, c, s.handler c, line.take n⟩])
    (hfd : s.fds fd = some c') (hu : s.hungUp c' = false) :
    Unended C K (s.handler c') fd (tail ends (stream t c'))
      (sending ev cmd o local' (line.drop n)) := by
  rw [stream_append hw]
  by_cases hc : c = c'
  · subst hc
    obtain rfl := fd_unique hs.registry hf hfd
    rw [if_pos rfl]
    by_cases hlt : n < line.length
    · rw [sending_more (by simpa using hlt)]
      exact unended_part hs hn hf hlt hu
    · have hle : line.length ≤ n := not_lt.mp hlt
      obtain ⟨last, hlast, -, hsent⟩ := stream_whole hs hn
      rw [sent, List.take_of_length_le hle, hsent,
        (append_ended _ (fun b hb => (hlast b hb).1) rfl).2, List.drop_of_length_le hle]
      rfl
  · have hne : s.fds o.fd ≠ some c' := by simpa [hf] using hc
    rw [if_neg hc, List.append_nil, tail_elsewhere hs hn hne hfd hu]
    cases hline : line.drop n with
    | nil => rfl
    | cons b rest =>
      refine ⟨by simp, by simp, fun hsub => absurd ?_ hne⟩
      exact (fds_of_inUse hs.registry (inUse_writing hn) hsub).2

end Write

lemma unended_call {ev : InputEvent} {cmd : String} {o : Observer} {local' : List Observer}
    {handler : Option Handler} {fd : ℕ} :
    Unended C K handler fd [] (callObserver C K s ev cmd o local').notify := by
  simp only [callObserver]
  split
  · rfl
  · cases hline : C.fastWriter (eventLine K ev cmd) with
    | nil => rfl
    | cons b line => exact ⟨by simp, by simp, fun _ => hline.symm⟩

lemma unended_step (hs : Streams C K s) (h : Stepped C K s a t) (hrel : reliable s a = true) :
    ∀ c fd, t.fds fd = some c → t.hungUp c = false →
      Unended C K (t.handler c) fd (tail ends (stream t c)) t.notify := by
  intro c fd hf hu
  have hstep := h
  cases h with
  | @write ev cmd o line local' c' n hn hf' hpos hle =>
    exact unended_write (s := s) hs hn hf' rfl hf hu
  | @call ev cmd o local' hn =>
    have hold : tail ends (stream s c) = [] := by
      have hall := hs.unended c fd hf hu
      rwa [hn] at hall
    rw [stream_of_same (s := s) (t := callObserver C K s ev cmd o local') rfl, hold]
    exact unended_call
  | @writeFails ev cmd o line local' hn =>
    have hto : s.fds o.fd ≠ some c := by
      intro hto
      exact Bool.false_ne_true (hu.symm.trans (hungUp_of_fails hn hrel hto))
    have hold : tail ends (stream s c) = [] := tail_elsewhere hs hn hto hf hu
    exact hold
  | notify hn | returns hn =>
    have hold := hs.unended c fd hf hu
    rwa [hn] at hold
  | accept | events | hangUp | readFails | removeObserver | close | terminate =>
    exact unended_frame hs hstep rfl rfl hf hu

lemma streams_step (hs : Streams C K s) (h : Stepped C K s a t) (hrel : reliable s a = true)
    (hnew : ∀ ev cmd, a = .notify ev cmd → ev.value = keyPress → LineReads C (eventLine K ev cmd)) :
    Streams C K t :=
  ⟨registry_step hs.registry h hrel, written_step hs h, readable_step hs h hnew,
    unended_step hs h hrel⟩

end Written

section Delivery

variable {C K} {s t : Observers.State} {a : Observers.Action} {notified : List Notified}

lemma ownObjects_unregistered (hs : Streams C K s) {c id : ℕ} (hid : s.nextObsId ≤ id) :
    ownObjects id (passedOf C (stream s c)) = [] := by
  refine ownObjects_absent fun b hb => ?_
  obtain ⟨w, hw, -, hobs⟩ := mem_stream hb
  have hlt := (hs.written w hw).2
  omega

lemma other_observer (hs : Streams C K s) {c fd id : ℕ} {o : Observer} (ho : o ∈ s.notify.inUse)
    (hsub : s.handler c = some (.subscribed fd id)) (hne : s.fds o.fd ≠ some c) : o.id ≠ id := by
  rintro rfl
  exact hne (fds_of_inUse hs.registry ho hsub).2

lemma delivered_frame (hs : Streams C K s) (hd : Delivered C K s notified)
    (hsnap : ∀ n ∈ notified, ∀ o ∈ n.local', o.id < s.nextObsId) (h : Stepped C K s a t)
    (hn : t.notify = s.notify) (hw : t.writes = s.writes) : Delivered C K t notified := by
  intro c fd id hsub hu
  rw [stream_of_same hw, hn]
  rcases subscribed_stepped h hsub with hold | ⟨rfl, -, -⟩
  · exact hd c fd id hold (hungUp_stepped h hu)
  · -- nothing is written and nothing is due under an id that is only given now
    rw [ownObjects_unregistered hs le_rfl, unfinished_absent, expected_absent, List.append_nil]
    · intro n hmem o ho
      exact (hsnap n hmem o ho).ne
    · intro o ho
      exact (hs.registry.given o (.inr ho)).ne

section Write

variable {ev : InputEvent} {cmd : String} {o : Observer} {line : Bytes} {local' : List Observer}
  {c c' fd id n : ℕ}

lemma event_whole (hs : Streams C K s) (hn : s.notify = .writing ev cmd o line local')
    (hf : s.fds o.fd = some c) (hsub : s.handler c = some (.subscribed o.fd o.id))
    (hu : s.hungUp c = false) {last : List Sent} (hlast : line = last.map Sent.byte ++ [newline]) :
    event C ⟨tail ends (stream s c) ++ last, ⟨newline, o.id⟩⟩ =
      some (⟨tail ends (stream s c) ++ last, ⟨newline, o.id⟩⟩, eventLine K ev cmd) := by
  have hold := hs.unended c o.fd hf hu
  have hr := hs.readable
  rw [hn] at hold hr
  obtain ⟨-, ⟨text, htext, hne, -, hread⟩, -, -⟩ := hr
  have hfull := hold.2.2 hsub
  rw [hlast, htext, ← List.append_assoc, ← List.map_append] at hfull
  obtain ⟨hbytes, -⟩ := List.append_inj' hfull rfl
  apply event_of_text
  · intro (hnil : tail ends (stream s c) ++ last = [])
    rw [hnil] at hbytes
    exact hne hbytes.symm
  · rw [hbytes]
    exact hread

lemma due_whole (hs : Streams C K s) (hn : s.notify = .writing ev cmd o line local')
    (hf : s.fds o.fd = some c) (hsub : s.handler c = some (.subscribed fd id))
    (hu : s.hungUp c = false) {last : List Sent} (hown : ∀ b ∈ last, b.observer = o.id)
    (hlast : line = last.map Sent.byte ++ [newline]) :
    ownObjects id (event C ⟨tail ends (stream s c) ++ last, ⟨newline, o.id⟩⟩).toList ++
      stillDue K ev cmd local' id = stillDue K ev cmd (o :: local') id := by
  have hold := hs.unended c o.fd hf hu
  have hr := hs.readable
  have hdistinct := hs.registry.distinctInUse
  rw [hn] at hold hr hdistinct
  by_cases hid : o.id = id
  · subst hid
    have hfd : o.fd = fd := (fds_of_inUse hs.registry (inUse_writing hn) hsub).1
    rw [← hfd] at hsub
    have hgone : o.id ∉ local'.map Observer.id := (List.nodup_cons.mp hdistinct).1
    rw [event_whole hs hn hf hsub hu hlast, Option.toList_some, ownObjects_of_all, stillDue_own hr.1,
      stillDue_absent, List.append_nil]
    · intro p hp hid
      exact hgone (List.mem_map.mpr ⟨p, hp, hid⟩)
    · intro b hb
      rcases List.mem_append.mp hb with hb | hb
      · exact (List.mem_append.mp hb).elim (hold.1 b) (hown b)
      · rw [List.mem_singleton.mp hb]
  · rw [stillDue_other hid, ownObjects_of_last, List.nil_append]
    intro p hp
    rw [line_of_event (Option.mem_toList.mp hp)]
    exact hid

lemma delivered_write (hs : Streams C K s) (hd : Delivered C K s notified)
    (hn : s.notify = .writing ev cmd o line local') (hf : s.fds o.fd = some c)
    (hw : t.writes = s.writes ++ [⟨o.id, c, s.handler c, line.take n⟩])
    (hsub : s.handler c' = some (.subscribed fd id)) (hu : s.hungUp c' = false) :
    ownObjects id (passedOf C (stream t c')) ++
      unfinished K (sending ev cmd o local' (line.drop n)) id = expected K notified id := by
  have hold := hd c' fd id hsub hu
  rw [hn] at hold
  rw [← hold, stream_append hw]
  by_cases hc : c = c'
  · subst hc
    rw [if_pos rfl]
    by_cases hlt : n < line.length
    · rw [sending_more (by simpa using hlt), sent, passedOf_unended (part_unended hs hn hlt)]
      rfl
    · have hle : line.length ≤ n := not_lt.mp hlt
      obtain ⟨last, hlast, hline, hsent⟩ := stream_whole hs hn
      rw [sent, List.take_of_length_le hle, hsent, passedOf_ended (fun b hb => (hlast b hb).1) rfl,
        ownObjects_append, List.drop_of_length_le hle, List.append_assoc]
      congr 1
      exact due_whole hs hn hf hsub hu (fun b hb => (hlast b hb).2) hline
  · rw [if_neg hc, List.append_nil]
    cases line.drop n with
    | cons b rest => rfl
    | nil =>
      have hne : s.fds o.fd ≠ some c' := by simpa [hf] using hc
      have hother := other_observer hs (inUse_writing hn) hsub hne
      congr 1
      exact (stillDue_other hother).symm

end Write

lemma delivered_call (hs : Streams C K s) (hd : Delivered C K s notified) {ev : InputEvent}
    {cmd : String} {o : Observer} {local' : List Observer}
    (hn : s.notify = .calling ev cmd (o :: local')) :
    Delivered C K (callObserver C K s ev cmd o local') notified := by
  intro c fd id hsub hu
  have hold := hd c fd id hsub hu
  have hr := hs.readable
  rw [hn] at hold hr
  rw [stream_of_same (s := s) (t := callObserver C K s ev cmd o local') rfl, ← hold]
  congr 1
  simp only [callObserver]
  split
  · next hskip =>
    rcases hskip with hdis | hv
    · have hother : o.id ≠ id := by
        rintro rfl
        rw [hs.registry.connected c fd o.id hsub hu] at hdis
        cases hdis
      exact (stillDue_other hother).symm
    · have hnone : ∀ l, stillDue K ev cmd l id = [] := fun l => if_neg fun hrec => hv hrec.1
      exact (hnone _).trans (hnone _).symm
  · next hskip =>
    rw [not_or, not_not] at hskip
    obtain ⟨text, htext, -, -, -⟩ := hr hskip.2
    rw [sending_more (by simp [htext])]
    rfl

lemma delivered_step (hs : Streams C K s) (hd : Delivered C K s notified)
    (hsnap : ∀ n ∈ notified, ∀ o ∈ n.local', o.id < s.nextObsId) (h : Stepped C K s a t)
    (hrel : reliable s a = true) (ha : ∀ ev cmd, a ≠ .notify ev cmd) : Delivered C K t notified := by
  have hstep := h
  cases h with
  | @notify ev cmd hn => exact absurd rfl (ha ev cmd)
  | call hn => exact delivered_call hs hd hn
  | @write ev cmd o line local' c n hn hf hpos hle =>
    intro c' fd id hsub hu
    exact delivered_write (s := s) hs hd hn hf rfl hsub hu
  | @writeFails ev cmd o line local' hn =>
    intro c fd id hsub hu
    have hold := hd c fd id hsub hu
    rw [hn] at hold
    have hne : s.fds o.fd ≠ some c := by
      intro hto
      exact Bool.false_ne_true (hu.symm.trans (hungUp_of_fails hn hrel hto))
    have hother := other_observer hs (inUse_writing hn) hsub hne
    rw [← hold]
    congr 1
    exact (stillDue_other hother).symm
  | returns hn =>
    intro c fd id hsub hu
    have hold := hd c fd id hsub hu
    rw [hn] at hold
    rw [← hold]
    congr 1
    exact (stillDue_absent (by simp)).symm
  | accept | events | hangUp | readFails | removeObserver | close | terminate =>
    exact delivered_frame hs hd hsnap hstep rfl rfl

end Delivery

def Legible (_ : State) : Action → Prop
  | .notify ev table => ev.value = keyPress → LineReads C (eventLine K ev (commandIn table ev))
  | _ => True

section Runs

variable {C K} {s t : State} {a : Action}

lemma inv_start : Inv C K {} := by
  refine ⟨⟨registry_start, ?_, trivial, ?_⟩, ?_, ?_, fun c => reads_start⟩
  · intro w hw
    cases hw
  · intro c fd hf
    cases hf
  · intro n hn
    cases hn
  · intro c fd id hsub
    cases hsub

lemma stream_stepped {s t : Observers.State} {a : Observers.Action} (h : Stepped C K s a t)
    (c : ℕ) : ∃ more, stream t c = stream s c ++ more := by
  cases h with
  | write => exact ⟨_, stream_append rfl c⟩
  | accept | events | hangUp | readFails | removeObserver | close | terminate | notify | call
  | writeFails | returns => exact ⟨[], (List.append_nil _).symm⟩

lemma clients_step {u : Observers.State} {b : Observers.Action} (hi : Inv C K s)
    (h : Stepped C K s.observers b u) (c : ℕ) : Reads C (s.client c) (stream u c) := by
  obtain ⟨more, hmore⟩ := stream_stepped h c
  rw [hmore]
  exact reads_append (hi.clients c) more

lemma inv_observers {u : Observers.State} {b : Observers.Action} (hi : Inv C K s)
    (h : Observers.step C K s.observers b = some u) (hrel : reliable s.observers b = true)
    (hb : ∀ ev cmd, b ≠ .notify ev cmd) : Inv C K { s with observers := u } := by
  have hstep := stepped h
  refine ⟨?_, ?_, ?_, clients_step (s := s) hi hstep⟩
  · exact streams_step hi.streams hstep hrel fun ev cmd he => absurd he (hb ev cmd)
  · intro n hn o ho
    exact (hi.snapshots n hn o ho).trans_le (nextObsId_stepped hstep)
  · exact delivered_step hi.streams hi.delivered hi.snapshots hstep hrel hb

lemma inv_notify {u : Observers.State} {ev : InputEvent} {table : Table} (hi : Inv C K s)
    (hline : ev.value = keyPress → LineReads C (eventLine K ev (commandIn table ev)))
    (h : Observers.step C K s.observers (.notify ev (boundCommand table ev)) = some u) :
    Inv C K { s with
      observers := u, notified := s.notified ++ [⟨ev, table, s.observers.observers⟩] } := by
  have hstep := stepped h
  have hstreams : Streams C K u := by
    refine streams_step hi.streams hstep rfl fun ev' cmd he hv => ?_
    obtain ⟨rfl, rfl⟩ := Observers.Action.notify.inj he
    rw [boundCommand, if_pos hv]
    exact hline hv
  refine ⟨hstreams, ?_, ?_, clients_step (s := s) hi hstep⟩
  · intro n hn o ho
    rcases List.mem_append.mp hn with hn | hn
    · exact (hi.snapshots n hn o ho).trans_le (nextObsId_stepped hstep)
    · obtain rfl := List.mem_singleton.mp hn
      exact (hi.streams.registry.given o (.inl ho)).trans_le (nextObsId_stepped hstep)
  · intro c fd id hsub hu
    cases hstep with
    | notify hidle =>
      have hold := hi.delivered c fd id hsub hu
      rw [hidle] at hold
      rw [expected_append, ← hold, unfinished, List.append_nil]
      congr 1
      simp only [unfinished, stillDue]
      split
      · next hrec => rw [boundCommand, if_pos hrec.1]
      · rfl

lemma observers_of_step {b : Observers.Action} (hb : ¬ ∃ ev cmd, b = .notify ev cmd)
    (h : step C K s (.observers b) = some t) : ∃ u, (Observers.step C K s.observers b = some u ∧
      reliable s.observers b = true) ∧ { s with observers := u } = t := by
  have hob : reliable s.observers b = true ∧
      (Observers.step C K s.observers b).map (fun u => { s with observers := u }) = some t := by
    cases b with
    | notify ev cmd => exact absurd ⟨ev, cmd, rfl⟩ hb
    | _ => exact Option.ite_none_right_eq_some.mp h
  obtain ⟨u, hu, ht⟩ := Option.map_eq_some_iff.mp hob.2
  exact ⟨u, ⟨hu, hob.1⟩, ht⟩

lemma inv_step (hi : Inv C K s) (hlegible : Legible C K s a) (h : step C K s a = some t) :
    Inv C K t := by
  cases a with
  | notify ev table =>
    obtain ⟨u, hu, rfl⟩ := Option.map_eq_some_iff.mp h
    exact inv_notify hi hlegible hu
  | observers b =>
    by_cases hb : ∃ ev cmd, b = .notify ev cmd
    · obtain ⟨ev, cmd, rfl⟩ := hb
      cases h
    · obtain ⟨u, ⟨hu, hrel⟩, rfl⟩ := observers_of_step hb h
      exact inv_observers hi hu hrel fun ev cmd he => hb ⟨ev, cmd, he⟩
  | read c n =>
    obtain ⟨⟨-, -, hn⟩, h⟩ := Option.ite_none_right_eq_some.mp h
    obtain rfl := Option.some.inj h
    refine ⟨hi.streams, hi.snapshots, hi.delivered, fun c' => ?_⟩
    by_cases hc : c' = c
    · subst hc
      simpa using reads_receive (hi.clients c') hn
    · simpa [hc] using hi.clients c'

lemma eventLine_eq (ev : InputEvent) (table : Table) : eventLine K ev (commandIn table ev) =
    pressObject K ev ((lookup table ev.deviceId ev.code).getD "") := by
  simp only [eventLine, pressObject, commandIn, Json.ofMembers, Json.set, Json.object?,
    AssociationLists.assign, List.foldl_cons, List.foldl_nil, Option.getD_some, String.reduceEq,
    String.reduceLT, ↓reduceIte]

structure Owes (C : Codec) (K : KeyCodes) (c fd id : ℕ) (seen : List Json) (s : State) : Prop where
  inv : Inv C K s
  fresh : s.observers.nextObsId ≤ id → seen = []
  due : s.observers.handler c = some (.subscribed fd id) → expected K s.notified id = seen

variable {c fd id : ℕ} {seen : List Json}

lemma owes_start : Owes C K c fd id [] {} :=
  ⟨inv_start, fun _ => rfl, fun h => by cases h⟩

lemma owes_notify {ev : InputEvent} {table : Table} (ho : Owes C K c fd id seen s)
    (hl : Legible C K s (.notify ev table)) (h : step C K s (.notify ev table) = some t) :
    Owes C K c fd id (seen ++ owed K c fd id s (.notify ev table)) t := by
  have hinv : Inv C K t := inv_step ho.inv hl h
  obtain ⟨u, hu, rfl⟩ := Option.map_eq_some_iff.mp h
  obtain ⟨hhandler, hnext⟩ : u.handler = s.observers.handler ∧
      u.nextObsId = s.observers.nextObsId := by
    cases stepped hu with
    | notify => exact ⟨rfl, rfl⟩
  refine ⟨hinv, fun hfresh => ?_, fun hsub => ?_⟩
  · have hle : s.observers.nextObsId ≤ id := hnext ▸ hfresh
    have hnot : s.observers.handler c ≠ some (.subscribed fd id) := fun hsub =>
      absurd (ho.inv.streams.registry.given _ (.inl (ho.inv.streams.registry.listed c fd id hsub)))
        (Nat.not_lt.mpr hle)
    rw [ho.fresh hle, owed, if_neg fun h => hnot h.2, List.append_nil]
  · have hsub' : s.observers.handler c = some (.subscribed fd id) := hhandler ▸ hsub
    have hlisted := ho.inv.streams.registry.listed c fd id hsub'
    have hrec : Recipient ev s.observers.observers id ↔ ev.value = 1 :=
      ⟨And.left, fun hv => ⟨hv, List.mem_map.mpr ⟨_, hlisted, rfl⟩⟩⟩
    rw [expected_append, ho.due hsub', stillDue, owed]
    simp only [hrec, hsub', and_true, eventLine_eq]

lemma owes_observers {u : Observers.State} {b : Observers.Action} (ho : Owes C K c fd id seen s)
    (hinv : Inv C K { s with observers := u }) (h : Observers.step C K s.observers b = some u) :
    Owes C K c fd id seen { s with observers := u } := by
  have hstep := stepped h
  refine ⟨hinv, fun hfresh => ho.fresh ((nextObsId_stepped hstep).trans hfresh), fun hsub => ?_⟩
  rcases subscribed_stepped hstep hsub with hold | ⟨hid, -, -⟩
  · exact ho.due hold
  · rw [ho.fresh hid.ge]
    exact expected_absent fun n hn o hmem => ((ho.inv.snapshots n hn o hmem).trans_eq hid.symm).ne

lemma owes_step (ho : Owes C K c fd id seen s) (hl : Legible C K s a)
    (h : step C K s a = some t) : Owes C K c fd id (seen ++ owed K c fd id s a) t := by
  have hinv : Inv C K t := inv_step ho.inv hl h
  cases a with
  | notify ev table => exact owes_notify ho hl h
  | observers b =>
    have hseen : seen ++ owed K c fd id s (.observers b) = seen := List.append_nil seen
    rw [hseen]
    by_cases hb : ∃ ev cmd, b = .notify ev cmd
    · obtain ⟨ev, cmd, rfl⟩ := hb
      cases h
    · obtain ⟨u, hu, rfl⟩ := observers_of_step hb h
      exact owes_observers ho hinv hu.1
  | read c' n =>
    have hseen : seen ++ owed K c fd id s (.read c' n) = seen := List.append_nil seen
    rw [hseen]
    obtain ⟨-, h⟩ := Option.ite_none_right_eq_some.mp h
    obtain rfl := Option.some.inj h
    exact ⟨hinv, ho.fresh, ho.due⟩

end Runs

theorem own_events_delivered (as : List Action) (t : State) (hrun : exec (step C K) {} as = some t)
    (hlines : ∀ ev table, .notify ev table ∈ as → ev.value = 1 →
      LineReads C (pressObject K ev ((lookup table ev.deviceId ev.code).getD "")))
    (c fd id : ℕ) (hsub : t.observers.handler c = some (.subscribed fd id))
    (hopen : t.observers.hungUp c = false) :
    ownObjects id (t.client c).passed <+: observed (step C K) (owed K c fd id) {} as ∧
      ((∀ o ∈ t.observers.notify.inUse, o.id ≠ id) →
        (t.client c).consumed = (stream t.observers c).length →
        ownObjects id (t.client c).passed = observed (step C K) (owed K c fd id) {} as) := by
  have hguard : Guarded (step C K) (Legible C K) {} as := by
    refine guarded_of_forall fun a ha s => ?_
    cases a with
    | notify ev table =>
      rw [Legible, eventLine_eq]
      exact hlines ev table ha
    | observers | read => trivial
  have ho : Owes C K c fd id (observed (step C K) (owed K c fd id) {} as) t :=
    guarded_observed (fun _ _ _ _ => owes_step) owes_start hguard hrun
  have hd := ho.inv.delivered c fd id hsub hopen
  rw [ho.due hsub] at hd
  constructor
  · rw [← hd]
    exact (ownObjects_begins (ho.inv.clients c) id).trans (List.prefix_append _ _)
  · intro hdone hall
    rw [passed_of_all_read (ho.inv.clients c) hall, ← hd, unfinished_absent hdone, List.append_nil]

section Pad

def padTable : Table := (∅ : Table).insert "macro_pad" ((∅ : Bindings).insert 30 "firefox")

-- the reader of a stream leaves out the newline
def padLineCodec : Codec :=
  { padPressCodec with reader := fun line => padPressCodec.reader (line ++ [newline]) }

def padObject : Json :=
  .object [("code", .int 30), ("command", .string "firefox"), ("device", .string "macro_pad"),
    ("key", .string "KEY_A"), ("path", .string "/dev/input/event3"), ("type", .string "event")]

lemma padObject_eq : pressObject inputEventCodes padPress
    ((lookup padTable padPress.deviceId padPress.code).getD "") = padObject := by
  decide

lemma padLine_reads : LineReads padLineCodec padObject :=
  ⟨padPressText.dropLast, by decide, by decide, by decide, by decide⟩

def padRun : List Action :=
  [.observers (.accept 0 5), .observers (.events 0), .notify padPress padTable, .observers .call,
    .observers (.write 9), .read 0 4, .observers (.write (padPressText.length - 9)),
    .observers .returns, .notify { padPress with value := 0 } padTable, .observers .call,
    .observers .returns, .read 0 (padPressText.length - 4)]

lemma padRun_legible : ∀ ev table, .notify ev table ∈ padRun → ev.value = 1 →
    LineReads padLineCodec
      (pressObject inputEventCodes ev ((lookup table ev.deviceId ev.code).getD "")) := by
  intro ev table hmem hv
  simp only [padRun, List.mem_cons, List.not_mem_nil, reduceCtorEq, false_or, or_false,
    Action.notify.injEq] at hmem
  rcases hmem with ⟨rfl, rfl⟩ | ⟨rfl, rfl⟩
  · rw [padObject_eq]
    exact padLine_reads
  · exact absurd hv (by decide)

lemma padRun_end {t : State} (ht : exec (step padLineCodec inputEventCodes) {} padRun = some t) :
    t.observers.handler 0 = some (.subscribed 5 0) ∧ t.observers.hungUp 0 = false ∧
      t.observers.notify.inUse = [] ∧ (t.client 0).consumed = (stream t.observers 0).length := by
  exact exec_all (p := fun t => t.observers.handler 0 = some (.subscribed 5 0) ∧
    t.observers.hungUp 0 = false ∧ t.observers.notify.inUse = [] ∧
      (t.client 0).consumed = (stream t.observers 0).length) (by decide) ht

theorem press_in_two_reads : ∃ t, exec (step padLineCodec inputEventCodes) {} padRun = some t ∧
    ownObjects 0 (t.client 0).passed = [padObject] := by
  obtain ⟨t, ht⟩ : ∃ t, exec (step padLineCodec inputEventCodes) {} padRun = some t := ⟨_, rfl⟩
  obtain ⟨hsub, hopen, hidle, hread⟩ := padRun_end ht
  obtain ⟨-, hall⟩ := own_events_delivered padLineCodec inputEventCodes padRun t ht padRun_legible
    0 5 0 hsub hopen
  have howed : observed (step padLineCodec inputEventCodes) (owed inputEventCodes 0 5 0) {} padRun =
      [padObject] := by
    decide
  exact ⟨t, ht, (hall (by simp [hidle]) hread).trans howed⟩

end Pad

end PointerForce.Daemon.EventStreams
