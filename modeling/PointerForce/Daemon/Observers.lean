import PointerForce.Daemon.Mapper
import PointerForce.Foundations.Runs

/-! The observers of the multiplexer and the clients behind them. A notify works on a copy of the
observers, while clients leave and their descriptors are given to new ones. -/

namespace PointerForce.Daemon.Observers

open Foundations Foundations.Runs

inductive Handler where
  | serving (fd : ℕ)
  | subscribed (fd id : ℕ)
  | leaving (fd : ℕ)
  | closed
  deriving DecidableEq, Repr

def Handler.fd? : Handler → Option ℕ
  | .serving fd | .subscribed fd _ | .leaving fd => some fd
  | .closed => none

structure Observer where
  id : ℕ
  fd : ℕ
  deriving DecidableEq, Repr

inductive Notify where
  | idle
  | calling (ev : InputEvent) (cmd : String) (local' : List Observer)
  | writing (ev : InputEvent) (cmd : String) (o : Observer) (line : Bytes) (local' : List Observer)

def Notify.inUse : Notify → List Observer
  | .idle => []
  | .calling _ _ local' => local'
  | .writing _ _ o _ local' => o :: local'

structure Call where
  id : ℕ
  registered : Bool
  deriving DecidableEq, Repr

structure Write where
  observer : ℕ
  connection : ℕ
  handler : Option Handler
  bytes : Bytes
  deriving DecidableEq, Repr

structure State where
  fds : ℕ → Option ℕ := fun _ => none
  handler : ℕ → Option Handler := fun _ => none
  observers : List Observer := []
  nextObsId : ℕ := 0
  disconnected : ℕ → Bool := fun _ => false
  hungUp : ℕ → Bool := fun _ => false
  running : Bool := true
  notify : Notify := .idle
  calls : List Call := []
  writes : List Write := []

inductive Action where
  | accept (c fd : ℕ)
  | events (c : ℕ)
  | hangUp (c : ℕ)
  -- a connection that is no event stream ends, after a hang-up or the timeout
  | readFails (c : ℕ)
  | removeObserver (c : ℕ)
  | close (c : ℕ)
  | terminate
  | notify (ev : InputEvent) (cmd : String)
  | call
  | write (n : ℕ)
  | writeFails
  | returns

variable (C : Codec) (K : KeyCodes)

def eventLine (ev : InputEvent) (cmd : String) : Json :=
  .ofMembers [("type", .string "event"), ("device", .string ev.deviceId),
    ("path", .string ev.devicePath), ("key", .string (codeToName K ev.code)), ("code", .int ev.code),
    ("command", .string cmd)]

def State.setHandler (s : State) (c : ℕ) (h : Handler) : State :=
  { s with handler := Function.update s.handler c (some h) }

def addObserver (s : State) (c fd : ℕ) : State :=
  { s.setHandler c (.subscribed fd s.nextObsId) with
    observers := s.observers ++ [⟨s.nextObsId, fd⟩], nextObsId := s.nextObsId + 1 }

def removeObserver (s : State) (c fd id : ℕ) : State :=
  { s.setHandler c (.leaving fd) with observers := s.observers.filter fun o => o.id ≠ id }

-- `send_str` has returned when nothing of the line is left
def sending (ev : InputEvent) (cmd : String) (o : Observer) (local' : List Observer) : Bytes → Notify
  | [] => .calling ev cmd local'
  | line => .writing ev cmd o line local'

def callObserver (s : State) (ev : InputEvent) (cmd : String) (o : Observer)
    (local' : List Observer) : State :=
  { s with
    calls := s.calls ++ [⟨o.id, o ∈ s.observers⟩]
    notify := if s.disconnected o.id ∨ ev.value ≠ keyPress then .calling ev cmd local'
      else sending ev cmd o local' (C.fastWriter (eventLine K ev cmd)) }

def step (s : State) : Action → Option State
  | .accept c fd =>
    if s.handler c = none ∧ s.fds fd = none then
      some { s.setHandler c (.serving fd) with fds := Function.update s.fds fd (some c) }
    else none
  | .events c =>
    match s.handler c with
    | some (.serving fd) => some (addObserver s c fd)
    | _ => none
  | .hangUp c => some { s with hungUp := Function.update s.hungUp c true }
  | .readFails c =>
    match s.handler c with
    | some (.serving fd) => some (s.setHandler c (.leaving fd))
    | _ => none
  | .removeObserver c =>
    match s.handler c with
    | some (.subscribed fd id) =>
      if s.disconnected id ∨ !s.running ∨ s.hungUp c then some (removeObserver s c fd id) else none
    | _ => none
  | .close c =>
    match s.handler c with
    | some (.leaving fd) =>
      some { s.setHandler c .closed with fds := Function.update s.fds fd none }
    | _ => none
  | .terminate => some { s with running := false }
  | .notify ev cmd =>
    match s.notify with
    | .idle => some { s with notify := .calling ev cmd s.observers }
    | _ => none
  | .call =>
    match s.notify with
    | .calling ev cmd (o :: local') => some (callObserver C K s ev cmd o local')
    | _ => none
  | .write n =>
    match s.notify with
    | .writing ev cmd o line local' =>
      match s.fds o.fd with
      | some c =>
        if 0 < n ∧ n ≤ line.length then
          some { s with
            notify := sending ev cmd o local' (line.drop n)
            writes := s.writes ++ [⟨o.id, c, s.handler c, line.take n⟩] }
        else none
      | none => none
    | _ => none
  | .writeFails =>
    match s.notify with
    | .writing ev cmd o _ local' => some { s with
        notify := .calling ev cmd local', disconnected := Function.update s.disconnected o.id true }
    | _ => none
  | .returns =>
    match s.notify with
    | .calling _ _ [] => some { s with notify := .idle }
    | _ => none

def eventTarget (s : State) : Option ℕ :=
  match s.notify with
  | .writing _ _ o _ _ => s.fds o.fd
  | _ => none

inductive Stepped (s : State) : Action → State → Prop where
  | accept {c fd : ℕ} : s.handler c = none → s.fds fd = none → Stepped s (.accept c fd)
      { s.setHandler c (.serving fd) with fds := Function.update s.fds fd (some c) }
  | events {c fd : ℕ} : s.handler c = some (.serving fd) → Stepped s (.events c) (addObserver s c fd)
  | hangUp (c : ℕ) : Stepped s (.hangUp c) { s with hungUp := Function.update s.hungUp c true }
  | readFails {c fd : ℕ} : s.handler c = some (.serving fd) →
      Stepped s (.readFails c) (s.setHandler c (.leaving fd))
  | removeObserver {c fd id : ℕ} : s.handler c = some (.subscribed fd id) →
      s.disconnected id ∨ !s.running ∨ s.hungUp c →
      Stepped s (.removeObserver c) (removeObserver s c fd id)
  | close {c fd : ℕ} : s.handler c = some (.leaving fd) → Stepped s (.close c)
      { s.setHandler c .closed with fds := Function.update s.fds fd none }
  | terminate : Stepped s .terminate { s with running := false }
  | notify {ev : InputEvent} {cmd : String} : s.notify = .idle →
      Stepped s (.notify ev cmd) { s with notify := .calling ev cmd s.observers }
  | call {ev : InputEvent} {cmd : String} {o : Observer} {local' : List Observer} :
      s.notify = .calling ev cmd (o :: local') → Stepped s .call (callObserver C K s ev cmd o local')
  | write {ev : InputEvent} {cmd : String} {o : Observer} {line : Bytes} {local' : List Observer}
      {c n : ℕ} : s.notify = .writing ev cmd o line local' → s.fds o.fd = some c →
      0 < n → n ≤ line.length → Stepped s (.write n) { s with
        notify := sending ev cmd o local' (line.drop n)
        writes := s.writes ++ [⟨o.id, c, s.handler c, line.take n⟩] }
  | writeFails {ev : InputEvent} {cmd : String} {o : Observer} {line : Bytes}
      {local' : List Observer} : s.notify = .writing ev cmd o line local' →
      Stepped s .writeFails { s with
        notify := .calling ev cmd local', disconnected := Function.update s.disconnected o.id true }
  | returns {ev : InputEvent} {cmd : String} : s.notify = .calling ev cmd [] →
      Stepped s .returns { s with notify := .idle }

def Owned (s : State) : Prop :=
  ∀ c h fd, s.handler c = some h → h.fd? = some fd → s.fds fd = some c

structure OnlySubscribers (s : State) : Prop where
  calls : ∀ call ∈ s.calls, call.registered = true
  writes : ∀ w ∈ s.writes, ∃ fd, w.handler = some (.subscribed fd w.observer)

/-- No observer is removed while a notify is in it or has still to call it. -/
def NotInUse (s : State) : Action → Prop
  | .removeObserver c => ∀ fd id, s.handler c = some (.subscribed fd id) →
      ∀ o ∈ s.notify.inUse, o.id ≠ id
  | _ => True

structure Inv (s : State) : Prop where
  owned : ∀ c h fd, s.handler c = some h → h.fd? = some fd → s.fds fd = some c
  subscribed : ∀ o ∈ s.observers, ∃ c, s.handler c = some (.subscribed o.fd o.id)
  inUse : ∀ o ∈ s.notify.inUse, o ∈ s.observers
  only : OnlySubscribers s

section Steps

variable {C : Codec} {K : KeyCodes} {s t : State} {a : Action} {c fd id : ℕ}

lemma stepped (h : step C K s a = some t) : Stepped C K s a t := by
  cases a with
  | accept c fd =>
    simp only [step, Option.ite_none_right_eq_some, Option.some.injEq] at h
    obtain ⟨⟨hh, hf⟩, rfl⟩ := h
    exact .accept hh hf
  | events c =>
    simp only [step] at h
    split at h
    · next hh => exact Option.some.inj h ▸ .events hh
    · cases h
  | hangUp c =>
    obtain rfl := Option.some.inj h
    exact .hangUp c
  | readFails c =>
    simp only [step] at h
    split at h
    · next hh => exact Option.some.inj h ▸ .readFails hh
    · cases h
  | removeObserver c =>
    simp only [step] at h
    split at h
    · next hh =>
      obtain ⟨hend, h⟩ := Option.ite_none_right_eq_some.mp h
      exact Option.some.inj h ▸ .removeObserver hh hend
    · cases h
  | close c =>
    simp only [step] at h
    split at h
    · next hh => exact Option.some.inj h ▸ .close hh
    · cases h
  | terminate =>
    obtain rfl := Option.some.inj h
    exact .terminate
  | notify ev cmd =>
    simp only [step] at h
    split at h
    · next hn => exact Option.some.inj h ▸ .notify hn
    · cases h
  | call =>
    simp only [step] at h
    split at h
    · next hn => exact Option.some.inj h ▸ .call hn
    · cases h
  | write n =>
    simp only [step] at h
    split at h
    · next hn =>
      split at h
      · next hf =>
        obtain ⟨⟨hpos, hle⟩, h⟩ := Option.ite_none_right_eq_some.mp h
        exact Option.some.inj h ▸ .write hn hf hpos hle
      · cases h
    · cases h
  | writeFails =>
    simp only [step] at h
    split at h
    · next hn => exact Option.some.inj h ▸ .writeFails hn
    · cases h
  | returns =>
    simp only [step] at h
    split at h
    · next hn => exact Option.some.inj h ▸ .returns hn
    · cases h

@[simp] lemma setHandler_same (h : Handler) : (s.setHandler c h).handler c = some h := by
  simp [State.setHandler]

lemma setHandler_other {c' : ℕ} (hc : c' ≠ c) (h : Handler) :
    (s.setHandler c h).handler c' = s.handler c' := by
  simp [State.setHandler, hc]

lemma owned_accept (ho : Owned s) (hf : s.fds fd = none) :
    Owned { s.setHandler c (.serving fd) with fds := Function.update s.fds fd (some c) } := by
  intro c' h f hc hfd
  by_cases hcc : c' = c
  · subst hcc
    obtain rfl : Handler.serving fd = h := Option.some.inj ((setHandler_same _).symm.trans hc)
    obtain rfl : fd = f := Option.some.inj hfd
    simp
  · have hown := ho c' h f ((setHandler_other hcc _).symm.trans hc) hfd
    have hne : f ≠ fd := by
      rintro rfl
      simp [hf] at hown
    simpa [hne] using hown

lemma owned_setHandler (ho : Owned s) {old new : Handler} (hold : s.handler c = some old)
    (hfd : old.fd? = some fd) (hnew : new.fd? = some fd) : Owned (s.setHandler c new) := by
  intro c' h f hc hf
  by_cases hcc : c' = c
  · subst hcc
    obtain rfl : new = h := Option.some.inj ((setHandler_same _).symm.trans hc)
    obtain rfl : fd = f := Option.some.inj (hnew.symm.trans hf)
    exact ho c' old fd hold hfd
  · exact ho c' h f ((setHandler_other hcc _).symm.trans hc) hf

lemma owned_close (ho : Owned s) (hh : s.handler c = some (.leaving fd)) :
    Owned { s.setHandler c .closed with fds := Function.update s.fds fd none } := by
  intro c' h f hc hfd
  by_cases hcc : c' = c
  · subst hcc
    obtain rfl : Handler.closed = h := Option.some.inj ((setHandler_same _).symm.trans hc)
    cases hfd
  · have hown := ho c' h f ((setHandler_other hcc _).symm.trans hc) hfd
    have hne : f ≠ fd := by
      rintro rfl
      exact hcc (Option.some.inj (hown.symm.trans (ho c _ f hh rfl)))
    simpa [hne] using hown

lemma owned_step (ho : Owned s) (h : Stepped C K s a t) : Owned t := by
  cases h with
  | accept hh hf => exact owned_accept ho hf
  | events hh => exact owned_setHandler ho hh rfl rfl
  | readFails hh => exact owned_setHandler ho hh rfl rfl
  | removeObserver hh => exact owned_setHandler ho hh rfl rfl
  | close hh => exact owned_close ho hh
  | hangUp | terminate | notify | call | write | writeFails | returns => exact ho

lemma inv_start : Inv {} := by
  refine ⟨?_, ?_, ?_, ⟨?_, ?_⟩⟩ <;> simp [Notify.inUse]

lemma inUse_calling {ev : InputEvent} {cmd : String} {o : Observer} {local' : List Observer}
    (hn : s.notify = .calling ev cmd (o :: local')) : o ∈ s.notify.inUse := by
  rw [hn]
  exact List.mem_cons_self

lemma inUse_writing {ev : InputEvent} {cmd : String} {o : Observer} {line : Bytes}
    {local' : List Observer} (hn : s.notify = .writing ev cmd o line local') :
    o ∈ s.notify.inUse := by
  rw [hn]
  exact List.mem_cons_self

lemma inUse_sending (ev : InputEvent) (cmd : String) (o : Observer) (local' : List Observer)
    (line : Bytes) : (sending ev cmd o local' line).inUse.Sublist (o :: local') := by
  cases line with
  | nil => exact List.sublist_cons_self o local'
  | cons b line => exact List.Sublist.refl _

lemma inUse_stepped (h : Stepped C K s a t) : t.notify.inUse.Sublist s.notify.inUse ∨
    t.notify.inUse = s.observers ∧ t.observers = s.observers := by
  cases h with
  | notify hn => exact .inr ⟨rfl, rfl⟩
  | @call ev cmd o local' hn =>
    left
    have huse : s.notify.inUse = o :: local' := by rw [hn]; rfl
    rw [huse]
    simp only [callObserver]
    split
    · exact List.sublist_cons_self o local'
    · exact inUse_sending ev cmd o local' _
  | @write ev cmd o line local' c n hn =>
    left
    have huse : s.notify.inUse = o :: local' := by rw [hn]; rfl
    rw [huse]
    exact inUse_sending ev cmd o local' _
  | @writeFails ev cmd o line local' hn =>
    left
    have huse : s.notify.inUse = o :: local' := by rw [hn]; rfl
    rw [huse]
    exact List.sublist_cons_self o local'
  | returns hn => exact .inl (List.nil_sublist _)
  | accept | events | hangUp | readFails | removeObserver | close | terminate =>
    exact .inl (List.Sublist.refl _)

lemma subscribed_setHandler (hi : Inv s) {new : Handler} {o : Observer} (ho : o ∈ s.observers)
    (hn : s.handler c ≠ some (.subscribed o.fd o.id)) :
    ∃ c', (s.setHandler c new).handler c' = some (.subscribed o.fd o.id) := by
  obtain ⟨c', hc'⟩ := hi.subscribed o ho
  have hne : c' ≠ c := by
    rintro rfl
    exact hn hc'
  exact ⟨c', (setHandler_other hne new).trans hc'⟩

lemma subscribed_step (hi : Inv s) (h : Stepped C K s a t) :
    ∀ o ∈ t.observers, ∃ c, t.handler c = some (.subscribed o.fd o.id) := by
  intro o ho
  cases h with
  | accept hh hf => exact subscribed_setHandler hi ho (by simp [hh])
  | @events c fd hh =>
    rcases List.mem_append.mp ho with ho | ho
    · exact subscribed_setHandler hi ho (by simp [hh])
    · obtain rfl := List.mem_singleton.mp ho
      exact ⟨c, setHandler_same _⟩
  | readFails hh => exact subscribed_setHandler hi ho (by simp [hh])
  | removeObserver hh hend =>
    obtain ⟨ho, hid⟩ := List.mem_filter.mp ho
    refine subscribed_setHandler hi ho ?_
    simp only [hh, ne_eq, Option.some.injEq, Handler.subscribed.injEq, not_and]
    rintro - rfl
    simp at hid
  | close hh => exact subscribed_setHandler hi ho (by simp [hh])
  | hangUp | terminate | notify | call | write | writeFails | returns => exact hi.subscribed o ho

lemma inUse_step (hi : Inv s) (hguard : NotInUse s a) (h : Stepped C K s a t) :
    ∀ o ∈ t.notify.inUse, o ∈ t.observers := by
  have hkept : ∀ o ∈ s.notify.inUse, o ∈ t.observers := by
    intro o ho
    have hmem := hi.inUse o ho
    cases h with
    | events hh => exact List.mem_append_left _ hmem
    | removeObserver hh hend =>
      exact List.mem_filter.mpr ⟨hmem, by simpa using hguard _ _ hh o ho⟩
    | accept | hangUp | readFails | close | terminate | notify | call | write | writeFails
    | returns => exact hmem
  intro o ho
  rcases inUse_stepped h with hsub | ⟨huse, hobs⟩
  · exact hkept o (hsub.subset ho)
  · rwa [hobs, ← huse]

lemma only_step (hi : Inv s) (h : Stepped C K s a t) : OnlySubscribers t := by
  cases h with
  | @call ev cmd o local' hn =>
    have huse := hi.inUse o (inUse_calling hn)
    refine ⟨fun call hc => ?_, hi.only.writes⟩
    rcases List.mem_append.mp hc with hc | hc
    · exact hi.only.calls call hc
    · obtain rfl := List.mem_singleton.mp hc
      simpa using huse
  | @write ev cmd o line local' c n hn hf hpos hle =>
    have huse := hi.inUse o (inUse_writing hn)
    refine ⟨hi.only.calls, fun w hw => ?_⟩
    rcases List.mem_append.mp hw with hw | hw
    · exact hi.only.writes w hw
    · obtain rfl := List.mem_singleton.mp hw
      -- the observer in use is registered, so its descriptor is that of its own connection
      obtain ⟨c', hc'⟩ := hi.subscribed o huse
      obtain rfl : c' = c := Option.some.inj ((hi.owned c' _ o.fd hc' rfl).symm.trans hf)
      exact ⟨o.fd, hc'⟩
  | accept | events | hangUp | readFails | removeObserver | close | terminate | notify | writeFails
  | returns => exact ⟨hi.only.calls, hi.only.writes⟩

lemma inv_step (hi : Inv s) (hguard : NotInUse s a) (h : step C K s a = some t) : Inv t :=
  have hs := stepped h
  ⟨owned_step hi.owned hs, subscribed_step hi hs, inUse_step hi hguard hs, only_step hi hs⟩

end Steps

theorem only_subscribers (C : Codec) (K : KeyCodes) (as : List Action) (t : State)
    (hrun : exec (step C K) {} as = some t) (hguard : Guarded (step C K) NotInUse {} as) :
    OnlySubscribers t := by
  have hi : Inv t := guarded_invariant (fun _ _ _ => inv_step) inv_start hguard hrun
  exact hi.only

section Runs

def padPress : InputEvent where
  deviceId := "macro_pad"
  devicePath := "/dev/input/event3"
  code := 30
  value := keyPress
  timestamp := 0

def padPressText : Bytes :=
  utf8 ("\x7b\"code\":30,\"command\":\"firefox\",\"device\":\"macro_pad\",\"key\":\"KEY_A\"," ++
    "\"path\":\"/dev/input/event3\",\"type\":\"event\"\x7d\n")

def padPressCodec : Codec := .ofTable [(padPressText, eventLine inputEventCodes padPress "firefox")]

theorem subscriber_gets_press : ∃ t, exec (step padPressCodec inputEventCodes) {}
      [.accept 0 5, .events 0, .notify padPress "firefox", .call, .write padPressText.length,
        .returns, .hangUp 0, .removeObserver 0, .close 0] = some t ∧ t.writes ≠ [] ∧
    OnlySubscribers t := by
  refine ⟨_, rfl, by decide, ?_⟩
  refine only_subscribers padPressCodec inputEventCodes [.accept 0 5, .events 0,
    .notify padPress "firefox", .call, .write padPressText.length, .returns, .hangUp 0,
    .removeObserver 0, .close 0] _ rfl ?_
  iterate 7 refine guarded_cons trivial rfl ?_
  refine guarded_cons ?_ rfl (guarded_cons trivial rfl trivial)
  intro fd id _ o ho
  cases ho

theorem stranger_gets_press : ∃ t, exec (step padPressCodec inputEventCodes) {}
      [.accept 0 5, .events 0, .notify padPress "firefox", .hangUp 0, .removeObserver 0, .close 0,
        .accept 1 5, .call, .write padPressText.length] = some t ∧
    t.calls = [⟨0, false⟩] ∧ t.writes = [⟨0, 1, some (.serving 5), padPressText⟩] ∧
    ¬ OnlySubscribers t := by
  refine ⟨_, rfl, rfl, rfl, ?_⟩
  intro h
  obtain ⟨fd, hfd⟩ := h.writes _ List.mem_cons_self
  cases hfd

end Runs

end PointerForce.Daemon.Observers
