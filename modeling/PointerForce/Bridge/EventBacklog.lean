import PointerForce.Bridge.EventResponse

/-! What waits in the queue of a response, and which lines never reach the page. -/

namespace PointerForce.Bridge.EventBacklog

open Foundations.Runs EventResponse

variable {s t : EventStreamState} {a : Action} {i : ℕ} {r : Removed}

def Overflowing (s : EventStreamState) (i : ℕ) (r : Removed) : Prop :=
  s.removed.length = i ∧ s.queue.head? = some r.line ∧ 501 ≤ s.queue.length

lemma removed_popFront (sent : Bool) (h : (s.popFront sent).removed[i]? = some r) :
    s.removed[i]? = some r ∨
      (r.sent = sent ∧ s.removed.length = i ∧ s.queue.head? = some r.line) := by
  simp only [EventStreamState.popFront] at h
  rcases lt_or_ge i s.removed.length with hi | hi
  · rw [List.getElem?_append_left hi] at h
    exact .inl h
  · rw [List.getElem?_append_right hi] at h
    cases hq : s.queue.head? with
    | none => simp [hq] at h
    | some line =>
      rw [hq, Option.map_some, Option.toList_some, List.getElem?_singleton] at h
      obtain ⟨hz, hr⟩ := Option.ite_none_right_eq_some.mp h
      obtain rfl := Option.some.inj hr
      exact .inr ⟨rfl, by omega, rfl⟩

lemma dropped_step (h : step s a = some t) (hr : t.removed[i]? = some r) (hs : r.sent = false) :
    s.removed[i]? = some r ∨ (∃ event, a = .push event) ∧ Overflowing s i r := by
  obtain ⟨event, line, rfl, -, rfl⟩ | ⟨maxLen, rfl, rfl⟩ := step_cases h
  · by_cases hfull : s.queue.length > 500
    · rw [if_pos hfull] at hr
      rcases removed_popFront false hr with hold | ⟨-, hi, hq⟩
      · exact .inl hold
      · exact .inr ⟨⟨event, rfl⟩, hi, hq, hfull⟩
    · rw [if_neg hfull] at hr
      exact .inl hr
  · rcases removed_popFront true hr with hold | ⟨hsent, -⟩
    · exact .inl hold
    · rw [hs] at hsent
      cases hsent

lemma dropped_run {as : List Action} (h : exec step {} as = some t)
    (hr : t.removed[i]? = some r) (hs : r.sent = false) :
    ∃ as₁ event as₂ u, as = as₁ ++ .push event :: as₂ ∧ exec step {} as₁ = some u ∧
      Overflowing u i r := by
  induction as using List.reverseRecOn generalizing t with
  | nil =>
    obtain rfl := Option.some.inj h
    simp at hr
  | append_singleton as a ih =>
    obtain ⟨u, hu, ht⟩ := exec_concat.mp h
    rcases dropped_step ht hr hs with hold | ⟨⟨event, rfl⟩, hfull⟩
    · obtain ⟨as₁, event, as₂, v, rfl, hv, hfull⟩ := ih hu hold
      exact ⟨as₁, event, as₂ ++ [a], v, by simp, hv, hfull⟩
    · exact ⟨as, event, [], u, rfl, hu, hfull⟩

lemma length_step (hs : s.queue.length ≤ 501) (h : step s a = some t) : t.queue.length ≤ 501 := by
  obtain ⟨event, line, rfl, -, rfl⟩ | ⟨maxLen, rfl, rfl⟩ := step_cases h
  · simp only [EventStreamState.pushBack, List.length_append, List.length_singleton]
    split
    · simp only [EventStreamState.popFront, List.length_tail]
      omega
    · omega
  · simp only [EventStreamState.write, EventStreamState.popFront, List.length_tail]
    omega

lemma accounted_step (hs : s.removed.map Removed.line ++ s.queue = s.queued)
    (h : step s a = some t) : t.removed.map Removed.line ++ t.queue = t.queued := by
  obtain ⟨event, line, rfl, -, rfl⟩ | ⟨maxLen, rfl, rfl⟩ := step_cases h
  · refine accounted_pushBack ?_ line
    split
    · exact accounted_popFront hs false
    · exact hs
  · exact accounted_popFront hs true

/-- The queue is what has been pushed after the last removed line, the lines sent are those that the
calls have taken, and a line was removed unsent only to make room in a full queue. -/
theorem backlog_is_bounded_suffix (as : List Action) (t : EventStreamState)
    (hrun : exec step {} as = some t) :
    t.queue.length ≤ 501 ∧ t.removed.map Removed.line ++ t.queue = as.filterMap pushedLine ∧
      t.sent = observed step taken {} as ∧
      (observed step taken {} as).Sublist (as.filterMap pushedLine) ∧
      ∀ i r, t.removed[i]? = some r → r.sent = false →
        ∃ as₁ event as₂ u, as = as₁ ++ .push event :: as₂ ∧ exec step {} as₁ = some u ∧
          u.removed.length = i ∧ u.queue.head? = some r.line ∧ 501 ≤ u.queue.length := by
  have haccounted : t.removed.map Removed.line ++ t.queue = t.queued :=
    @exec_invariant _ _ step _ _ _ (fun s => s.removed.map Removed.line ++ s.queue = s.queued)
      (fun _ _ _ => accounted_step) rfl hrun
  have hlength : t.queue.length ≤ 501 :=
    @exec_invariant _ _ step _ _ _ (fun s => s.queue.length ≤ 501) (fun _ _ _ => length_step)
      (Nat.zero_le _) hrun
  rw [queued_run hrun] at haccounted
  refine ⟨hlength, haccounted, sent_run hrun, ?_, fun i r hr hs => dropped_run hrun hr hs⟩
  rw [← haccounted, ← sent_run hrun]
  exact (List.filter_sublist.map Removed.line).trans (List.sublist_append_left _ _)

theorem one_press_waits : ∃ t, exec step {} (twoPresses.dropLast) = some t ∧
    t.queue = ["[mouse] BTN_SIDE"] ∧ t.sent = ["[mouse] BTN_SIDE  →  firefox"] := by
  obtain ⟨t, ht⟩ : ∃ t, exec step {} (twoPresses.dropLast) = some t := ⟨_, rfl⟩
  obtain ⟨-, hlines, hsent, -⟩ := backlog_is_bounded_suffix twoPresses.dropLast t ht
  have hpushed : twoPresses.dropLast.filterMap pushedLine =
      ["[mouse] BTN_SIDE  →  firefox", "[mouse] BTN_SIDE"] := by
    decide
  have htaken : observed step taken {} twoPresses.dropLast = ["[mouse] BTN_SIDE  →  firefox"] := by
    decide
  have hall : t.removed = [⟨"[mouse] BTN_SIDE  →  firefox", true⟩] :=
    exec_all (p := fun t => t.removed = [⟨"[mouse] BTN_SIDE  →  firefox", true⟩]) (by decide) ht
  rw [hall, hpushed] at hlines
  exact ⟨t, ht, (List.cons.inj hlines).2, hsent.trans htaken⟩

end PointerForce.Bridge.EventBacklog
