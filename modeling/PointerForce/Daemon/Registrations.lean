import PointerForce.Daemon.Observers

/-! The registrations of the observers. An id is given once, and while its client is subscribed it
stands for one descriptor and one connection. -/

namespace PointerForce.Daemon.Registrations

open Foundations Observers

/-- A write fails only if the descriptor has been closed or the peer of its connection has. -/
def reliable (s : State) : Action → Bool
  | .writeFails => (eventTarget s).all s.hungUp
  | _ => true

structure Registry (s : State) : Prop where
  owned : Owned s
  held : ∀ c fd, s.fds fd = some c → ∃ h, s.handler c = some h ∧ h.fd? = some fd
  listed : ∀ c fd id, s.handler c = some (.subscribed fd id) → ⟨id, fd⟩ ∈ s.observers
  given : ∀ o, o ∈ s.observers ∨ o ∈ s.notify.inUse → o.id < s.nextObsId
  distinct : (s.observers.map Observer.id).Nodup
  distinctInUse : (s.notify.inUse.map Observer.id).Nodup
  agree : ∀ o ∈ s.notify.inUse, ∀ p ∈ s.observers, o.id = p.id → o = p
  failed : ∀ id, s.disconnected id = true → id < s.nextObsId
  connected : ∀ c fd id, s.handler c = some (.subscribed fd id) → s.hungUp c = false →
    s.disconnected id = false

section Frames

variable {C : Codec} {K : KeyCodes} {s t : State} {a : Action}

lemma nextObsId_stepped (h : Stepped C K s a t) : s.nextObsId ≤ t.nextObsId := by
  cases h with
  | events hh => exact Nat.le_succ _
  | accept | hangUp | readFails | removeObserver | close | terminate | notify | call | write
  | writeFails | returns => exact Nat.le_refl _

lemma observers_stepped (h : Stepped C K s a t) {o : Observer} (ho : o ∈ t.observers) :
    o ∈ s.observers ∨ o.id = s.nextObsId ∧ s.nextObsId < t.nextObsId := by
  cases h with
  | events hh =>
    rcases List.mem_append.mp ho with ho | ho
    · exact .inl ho
    · obtain rfl := List.mem_singleton.mp ho
      exact .inr ⟨rfl, Nat.lt_succ_self _⟩
  | removeObserver hh hend => exact .inl (List.mem_of_mem_filter ho)
  | accept | hangUp | readFails | close | terminate | notify | call | write | writeFails
  | returns => exact .inl ho

lemma hungUp_stepped (h : Stepped C K s a t) {c : ℕ} (ht : t.hungUp c = false) :
    s.hungUp c = false := by
  cases h with
  | hangUp c' =>
    by_cases hc : c = c'
    · subst hc
      simp at ht
    · simpa [hc] using ht
  | accept | events | readFails | removeObserver | close | terminate | notify | call | write
  | writeFails | returns => exact ht

lemma handler_stepped (h : Stepped C K s a t) {c : ℕ} (hc : s.handler c ≠ none) :
    t.handler c ≠ none := by
  have hset : ∀ c' new, (s.setHandler c' new).handler c ≠ none := by
    intro c' new
    by_cases hcc : c = c'
    · simp [hcc]
    · rwa [setHandler_other hcc]
  cases h with
  | accept | events | readFails | removeObserver | close => exact hset _ _
  | hangUp | terminate | notify | call | write | writeFails | returns => exact hc

lemma fds_stepped (h : Stepped C K s a t) {c fd : ℕ} (hf : t.fds fd = some c) :
    s.fds fd = some c ∨ s.handler c = none := by
  cases h with
  | @accept c' fd' hh hfree =>
    by_cases hfd : fd = fd'
    · obtain rfl : c' = c := by simpa [hfd] using hf
      exact .inr hh
    · exact .inl (by simpa [hfd] using hf)
  | @close c' fd' hh =>
    have hfd : fd ≠ fd' := by
      rintro rfl
      simp at hf
    exact .inl (by simpa [hfd] using hf)
  | events | hangUp | readFails | removeObserver | terminate | notify | call | write | writeFails
  | returns => exact .inl hf

lemma subscribed_setHandler_other {c c' fd id : ℕ} {new : Handler}
    (ht : (s.setHandler c new).handler c' = some (.subscribed fd id))
    (hnew : new ≠ .subscribed fd id) : c' ≠ c ∧ s.handler c' = some (.subscribed fd id) := by
  have hne : c' ≠ c := by
    rintro rfl
    exact hnew (Option.some.inj ((setHandler_same new).symm.trans ht))
  exact ⟨hne, (setHandler_other hne new).symm.trans ht⟩

lemma subscribed_stepped (h : Stepped C K s a t) {c fd id : ℕ}
    (ht : t.handler c = some (.subscribed fd id)) :
    s.handler c = some (.subscribed fd id) ∨
      id = s.nextObsId ∧ t.observers = s.observers ++ [⟨id, fd⟩] ∧
        t.disconnected = s.disconnected := by
  cases h with
  | @events c' fd' hh =>
    by_cases hnew : Handler.subscribed fd' s.nextObsId = .subscribed fd id
    · obtain ⟨rfl, rfl⟩ := Handler.subscribed.inj hnew
      exact .inr ⟨rfl, rfl, rfl⟩
    · exact .inl (subscribed_setHandler_other ht hnew).2
  | accept hh hf => exact .inl (subscribed_setHandler_other ht (by simp)).2
  | readFails hh => exact .inl (subscribed_setHandler_other ht (by simp)).2
  | removeObserver hh hend => exact .inl (subscribed_setHandler_other ht (by simp)).2
  | close hh => exact .inl (subscribed_setHandler_other ht (by simp)).2
  | hangUp | terminate | notify | call | write | writeFails | returns => exact .inl ht

lemma hungUp_of_fails {ev : InputEvent} {cmd : String} {o : Observer} {line : Bytes}
    {local' : List Observer} (hn : s.notify = .writing ev cmd o line local')
    (hr : reliable s .writeFails = true) {c : ℕ} (hf : s.fds o.fd = some c) :
    s.hungUp c = true := by
  simpa [reliable, eventTarget, hn, hf] using hr

lemma disconnected_stepped (h : Stepped C K s a t) (hr : reliable s a = true) {id : ℕ}
    (ht : t.disconnected id = true) : s.disconnected id = true ∨ ∃ o ∈ s.notify.inUse,
      o.id = id ∧ ∀ c, s.fds o.fd = some c → s.hungUp c = true := by
  cases h with
  | @writeFails ev cmd o line local' hn =>
    by_cases hid : id = o.id
    · exact .inr ⟨o, inUse_writing hn, hid.symm, fun c hc => hungUp_of_fails hn hr hc⟩
    · exact .inl (by simpa [hid] using ht)
  | accept | events | hangUp | readFails | removeObserver | close | terminate | notify | call | write
  | returns => exact .inl ht

end Frames

section Steps

variable {C : Codec} {K : KeyCodes} {s t : State} {a : Action}

lemma registry_start : Registry {} := by
  constructor <;> simp [Owned, Notify.inUse]

lemma observer_eq (hr : Registry s) {o p : Observer} (ho : o ∈ s.observers) (hp : p ∈ s.observers)
    (hid : o.id = p.id) : o = p :=
  List.inj_on_of_nodup_map hr.distinct ho hp hid

lemma subscriber_unique (hr : Registry s) {c c' fd fd' id : ℕ}
    (hc : s.handler c = some (.subscribed fd id)) (hc' : s.handler c' = some (.subscribed fd' id)) :
    c = c' := by
  obtain ⟨-, rfl⟩ := Observer.mk.inj
    (observer_eq hr (hr.listed c fd id hc) (hr.listed c' fd' id hc') rfl)
  exact Option.some.inj ((hr.owned c _ fd hc rfl).symm.trans (hr.owned c' _ fd hc' rfl))

lemma fds_of_inUse (hr : Registry s) {c fd : ℕ} {o : Observer} (ho : o ∈ s.notify.inUse)
    (hc : s.handler c = some (.subscribed fd o.id)) : o.fd = fd ∧ s.fds o.fd = some c := by
  have heq : o = ⟨o.id, fd⟩ := hr.agree o ho _ (hr.listed c fd o.id hc) rfl
  have hfd : o.fd = fd := congrArg Observer.fd heq
  rw [hfd]
  exact ⟨rfl, hr.owned c _ fd hc rfl⟩

lemma fd_unique (hr : Registry s) {c fd fd' : ℕ} (hf : s.fds fd = some c)
    (hf' : s.fds fd' = some c) : fd = fd' := by
  obtain ⟨h, hh, hfd⟩ := hr.held c fd hf
  obtain ⟨h', hh', hfd'⟩ := hr.held c fd' hf'
  obtain rfl := Option.some.inj (hh.symm.trans hh')
  exact Option.some.inj (hfd.symm.trans hfd')

lemma held_setHandler (hr : Registry s) {c fd : ℕ} {old new : Handler}
    (hold : s.handler c = some old) (hfd : old.fd? = some fd) (hnew : new.fd? = some fd) :
    ∀ c' f, (s.setHandler c new).fds f = some c' →
      ∃ h, (s.setHandler c new).handler c' = some h ∧ h.fd? = some f := by
  intro c' f hf
  obtain ⟨h, hh, hhf⟩ := hr.held c' f hf
  by_cases hcc : c' = c
  · subst hcc
    obtain rfl : old = h := Option.some.inj (hold.symm.trans hh)
    exact ⟨new, setHandler_same new, hnew.trans (hfd.symm.trans hhf)⟩
  · exact ⟨h, (setHandler_other hcc new).trans hh, hhf⟩

lemma held_step (hr : Registry s) (h : Stepped C K s a t) :
    ∀ c fd, t.fds fd = some c → ∃ h, t.handler c = some h ∧ h.fd? = some fd := by
  intro c fd hf
  cases h with
  | @accept c' fd' hh hfree =>
    by_cases hfd : fd = fd'
    · subst hfd
      obtain rfl : c' = c := by simpa using hf
      exact ⟨.serving fd, setHandler_same _, rfl⟩
    · obtain ⟨h, hc, hhf⟩ := hr.held c fd (by simpa [hfd] using hf)
      have hne : c ≠ c' := by
        rintro rfl
        simp [hh] at hc
      exact ⟨h, (setHandler_other hne _).trans hc, hhf⟩
  | events hh => exact held_setHandler hr hh rfl rfl c fd hf
  | readFails hh => exact held_setHandler hr hh rfl rfl c fd hf
  | removeObserver hh hend => exact held_setHandler hr hh rfl rfl c fd hf
  | @close c' fd' hh =>
    have hfd : fd ≠ fd' := by
      rintro rfl
      simp at hf
    obtain ⟨h, hc, hhf⟩ := hr.held c fd (by simpa [hfd] using hf)
    have hne : c ≠ c' := by
      rintro rfl
      obtain rfl := Option.some.inj (hh.symm.trans hc)
      exact hfd (Option.some.inj hhf).symm
    exact ⟨h, (setHandler_other hne _).trans hc, hhf⟩
  | hangUp | terminate | notify | call | write | writeFails | returns => exact hr.held c fd hf

lemma listed_step (hr : Registry s) (h : Stepped C K s a t) :
    ∀ c fd id, t.handler c = some (.subscribed fd id) → ⟨id, fd⟩ ∈ t.observers := by
  intro c fd id ht
  rcases subscribed_stepped h ht with hs | ⟨-, hobs, -⟩
  · have hmem := hr.listed c fd id hs
    cases h with
    | events hh => exact List.mem_append_left _ hmem
    | @removeObserver c' fd' id' hh hend =>
      refine List.mem_filter.mpr ⟨hmem, ?_⟩
      have hne : id ≠ id' := by
        rintro rfl
        exact (subscribed_setHandler_other ht (by simp)).1 (subscriber_unique hr hs hh)
      simpa using hne
    | accept | hangUp | readFails | close | terminate | notify | call | write | writeFails
    | returns => exact hmem
  · rw [hobs]
    exact List.mem_append_right _ (List.mem_singleton_self _)

lemma inUse_step_cases (h : Stepped C K s a t) {o : Observer} (ho : o ∈ t.notify.inUse) :
    o ∈ s.notify.inUse ∨ o ∈ s.observers ∧ t.observers = s.observers := by
  rcases inUse_stepped h with hsub | ⟨huse, hobs⟩
  · exact .inl (hsub.subset ho)
  · exact .inr ⟨huse ▸ ho, hobs⟩

lemma given_step (hr : Registry s) (h : Stepped C K s a t) :
    ∀ o, o ∈ t.observers ∨ o ∈ t.notify.inUse → o.id < t.nextObsId := by
  intro o ho
  have hle := nextObsId_stepped h
  rcases ho with ho | ho
  · rcases observers_stepped h ho with hs | ⟨hid, hlt⟩
    · exact (hr.given o (.inl hs)).trans_le hle
    · rwa [hid]
  · rcases inUse_step_cases h ho with hs | ⟨hs, -⟩
    · exact (hr.given o (.inr hs)).trans_le hle
    · exact (hr.given o (.inl hs)).trans_le hle

lemma distinct_step (hr : Registry s) (h : Stepped C K s a t) :
    (t.observers.map Observer.id).Nodup := by
  cases h with
  | events hh =>
    simp only [addObserver, List.map_append, List.map_cons, List.map_nil]
    refine List.nodup_append.mpr ⟨hr.distinct, List.nodup_singleton _, ?_⟩
    intro id hid new hnew hne
    obtain ⟨o, ho, rfl⟩ := List.mem_map.mp hid
    have hlt := hr.given o (.inl ho)
    rw [List.mem_singleton] at hnew
    omega
  | removeObserver hh hend => exact hr.distinct.sublist (List.filter_sublist.map _)
  | accept | hangUp | readFails | close | terminate | notify | call | write | writeFails
  | returns => exact hr.distinct

lemma distinctInUse_step (hr : Registry s) (h : Stepped C K s a t) :
    (t.notify.inUse.map Observer.id).Nodup := by
  rcases inUse_stepped h with hsub | ⟨huse, -⟩
  · exact hr.distinctInUse.sublist (hsub.map _)
  · rw [huse]
    exact hr.distinct

lemma agree_step (hr : Registry s) (h : Stepped C K s a t) :
    ∀ o ∈ t.notify.inUse, ∀ p ∈ t.observers, o.id = p.id → o = p := by
  intro o ho p hp hid
  rcases inUse_step_cases h ho with hs | ⟨hs, hobs⟩
  · rcases observers_stepped h hp with hps | ⟨hnew, -⟩
    · exact hr.agree o hs p hps hid
    · have hlt := hr.given o (.inr hs)
      omega
  · exact observer_eq hr hs (hobs ▸ hp) hid

lemma failed_step (hr : Registry s) (h : Stepped C K s a t) (hrel : reliable s a = true) :
    ∀ id, t.disconnected id = true → id < t.nextObsId := by
  intro id hid
  refine lt_of_lt_of_le ?_ (nextObsId_stepped h)
  rcases disconnected_stepped h hrel hid with hs | ⟨o, ho, rfl, -⟩
  · exact hr.failed id hs
  · exact hr.given o (.inr ho)

lemma connected_step (hr : Registry s) (h : Stepped C K s a t) (hrel : reliable s a = true) :
    ∀ c fd id, t.handler c = some (.subscribed fd id) → t.hungUp c = false →
      t.disconnected id = false := by
  intro c fd id hc hu
  rw [← Bool.not_eq_true]
  intro hd
  rcases subscribed_stepped h hc with hs | ⟨rfl, -, hdis⟩
  · have hopen := hungUp_stepped h hu
    rcases disconnected_stepped h hrel hd with hds | ⟨o, ho, rfl, hclosed⟩
    · simp [hr.connected c fd id hs hopen] at hds
    · simp [hclosed c (fds_of_inUse hr ho hs).2] at hopen
  · rw [hdis] at hd
    exact Nat.lt_irrefl _ (hr.failed _ hd)

lemma registry_step (hr : Registry s) (h : Stepped C K s a t) (hrel : reliable s a = true) :
    Registry t :=
  ⟨owned_step hr.owned h, held_step hr h, listed_step hr h, given_step hr h, distinct_step hr h,
    distinctInUse_step hr h, agree_step hr h, failed_step hr h hrel, connected_step hr h hrel⟩

end Steps

end PointerForce.Daemon.Registrations
