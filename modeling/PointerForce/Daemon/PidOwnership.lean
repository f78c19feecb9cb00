import PointerForce.Daemon.SingleInstance

/-! Whose PID file `remove_pid` removes. -/

namespace PointerForce.Daemon.PidOwnership

open Foundations.Runs PidFile SingleInstance

def OwnOrDead (r : Removal) : Prop :=
  r.file = none ∨ ∃ record, r.file.bind File.content = some record ∧
    (record.pid = r.pid ∨ r.writerLive = false)

def OrderlyWriting (s : State) (a : Action) : Prop :=
  Orderly s a ∧ ∀ p, a = .die p → ∀ inode, s.processes.phase p ≠ .opened inode

structure FileInv (m : Processes) (file : Option File) (removals : List Removal) : Prop where
  written : ∀ f record, file = some f → f.content = some record →
    m.phase record.writer ≠ .absent ∧ ((m.phase record.writer).live →
      (m.phase record.writer).settled ∧ record.pid = m.pid record.writer)
  blank : ∀ f, file = some f → f.content = none → ∃ p, m.phase p = .opened f.inode
  removals : ∀ r ∈ removals, OwnOrDead r

section Steps

variable {m m' : Processes} {s t : State} {a : Action} {file : Option File}
  {removals : List Removal} {p : ℕ} {ph : Phase}

lemma fileInv_move (hf : FileInv m file removals)
    (hother : ∀ q, q ≠ p → m'.phase q = m.phase q ∧ m'.pid q = m.pid q)
    (hopened : ∀ inode, m.phase p ≠ .opened inode)
    (hself : m.phase p ≠ .absent → m'.phase p ≠ .absent ∧ ((m'.phase p).live →
      (m.phase p).live ∧ ((m.phase p).settled → (m'.phase p).settled ∧ m'.pid p = m.pid p))) :
    FileInv m' file removals := by
  refine ⟨?_, ?_, hf.removals⟩
  · intro f record hfile hc
    obtain ⟨habsent, hw⟩ := hf.written f record hfile hc
    by_cases hp : record.writer = p
    · rw [hp] at habsent hw ⊢
      obtain ⟨ha, hl⟩ := hself habsent
      refine ⟨ha, fun hlive => ?_⟩
      obtain ⟨hlive', hs⟩ := hl hlive
      obtain ⟨hsettled, hpid⟩ := hw hlive'
      exact ⟨(hs hsettled).1, hpid.trans (hs hsettled).2.symm⟩
    · obtain ⟨hphase, hpid⟩ := hother record.writer hp
      rw [hphase, hpid]
      exact ⟨habsent, hw⟩
  · intro f hfile hc
    obtain ⟨q, hq⟩ := hf.blank f hfile hc
    have hne : q ≠ p := by
      rintro rfl
      exact hopened _ hq
    exact ⟨q, (hother q hne).1.trans hq⟩

lemma fileInv_set (hf : FileInv m file removals) {old : Phase} (hp : m.phase p = old)
    (hopened : ∀ inode, old ≠ .opened inode) (hlive : old.live) (hph : ph ≠ .absent)
    (hs : old.settled → ph.settled) : FileInv (m.set p ph) file removals := by
  subst hp
  refine fileInv_move hf (fun q hne => ⟨set_phase_other hne, rfl⟩) hopened fun _ => ?_
  rw [set_phase_self]
  exact ⟨hph, fun _ => ⟨hlive, fun h => ⟨hs h, rfl⟩⟩⟩

lemma fileInv_exit (hf : FileInv m file removals) (hopened : ∀ inode, m.phase p ≠ .opened inode) :
    FileInv (m.exit p) file removals := by
  have hself : (m.exit p).phase p = .exited := set_phase_self
  refine fileInv_move hf (fun q hne => ⟨set_phase_other hne, rfl⟩) hopened fun _ => ?_
  rw [hself]
  exact ⟨by simp, fun h => (Bool.false_ne_true h).elim⟩

lemma fileInv_truncate (hf : FileInv s.processes s.file s.removals) :
    FileInv (s.truncate p).processes (s.truncate p).file (s.truncate p).removals := by
  rw [State.truncate]
  cases s.file with
  | none =>
    refine ⟨?_, fun f hfile _ => ⟨p, ?_⟩, hf.removals⟩
    · rintro f record ⟨⟩ ⟨⟩
    · obtain rfl := Option.some.inj hfile
      exact set_phase_self
  | some f =>
    refine ⟨?_, fun f' hfile _ => ⟨p, ?_⟩, hf.removals⟩
    · rintro f' record ⟨⟩ ⟨⟩
    · obtain rfl := Option.some.inj hfile
      exact set_phase_self

lemma fileInv_write (hf : FileInv s.processes s.file s.removals) {inode : ℕ}
    (hp : s.processes.phase p = .opened inode) :
    FileInv (s.write p inode).processes (s.write p inode).file (s.write p inode).removals := by
  have hready : (s.write p inode).processes.phase p = .ready := set_phase_self
  refine ⟨?_, ?_, hf.removals⟩
  · intro f record hfile hc
    obtain ⟨f, hf', rfl⟩ := Option.map_eq_some_iff.mp hfile
    split at hc
    · obtain rfl := Option.some.inj hc
      rw [hready]
      exact ⟨by simp, fun _ => ⟨rfl, rfl⟩⟩
    · obtain ⟨habsent, hw⟩ := hf.written f record hf' hc
      have hne : record.writer ≠ p := by
        intro he
        rw [he, hp] at hw
        exact Bool.false_ne_true (hw rfl).1
      have hphase : (s.write p inode).processes.phase record.writer =
          s.processes.phase record.writer := set_phase_other hne
      rw [hphase]
      exact ⟨habsent, hw⟩
  · intro f hfile hc
    obtain ⟨f, hf', rfl⟩ := Option.map_eq_some_iff.mp hfile
    by_cases hi : f.inode = inode
    · simp [hi] at hc
    · rw [if_neg hi] at hc ⊢
      obtain ⟨q, hq⟩ := hf.blank f hf' hc
      have hne : q ≠ p := by
        rintro rfl
        exact hi (Phase.opened.inj (hq.symm.trans hp))
      exact ⟨q, (set_phase_other hne).trans hq⟩

lemma removal_owned (hi : Inv s.processes) (hf : FileInv s.processes s.file s.removals)
    (hp : busy (s.processes.phase p)) (hfound : ∀ pid, s.processes.phase p ≠ .found pid)
    (hopened : ∀ inode, s.processes.phase p ≠ .opened inode) :
    OwnOrDead ⟨s.processes.pid p, s.file, s.writerLive⟩ := by
  cases hfile : s.file with
  | none => exact .inl rfl
  | some f =>
    cases hc : f.content with
    | none =>
      obtain ⟨q, hq⟩ := hf.blank f hfile hc
      have he := hi.eq_of_not_found hp (by rw [hq]; rfl) hfound (by simp [hq])
      exact absurd (he ▸ hq) (hopened _)
    | some record =>
      obtain ⟨-, hw⟩ := hf.written f record hfile hc
      refine .inr ⟨record, hc, ?_⟩
      cases hlive : (s.processes.phase record.writer).live with
      | false =>
        right
        simp [State.writerLive, hfile, hc, hlive]
      | true =>
        obtain ⟨hs, hpid⟩ := hw hlive
        have hpast := settled_pastGuard hs
        have he := hi.eq_of_not_found hp (busy_of_pastGuard hpast) hfound
          (not_found_of_pastGuard hpast)
        left
        rw [hpid, ← he]

lemma fileInv_remove (hi : Inv s.processes) (hf : FileInv s.processes s.file s.removals)
    (hp : busy (s.processes.phase p)) (hfound : ∀ pid, s.processes.phase p ≠ .found pid)
    (hopened : ∀ inode, s.processes.phase p ≠ .opened inode) :
    FileInv (s.remove p ph).processes (s.remove p ph).file (s.remove p ph).removals := by
  refine ⟨?_, ?_, ?_⟩
  · rintro f record ⟨⟩
  · rintro f ⟨⟩
  · intro r hr
    rcases List.mem_append.mp hr with hr | hr
    · exact hf.removals r hr
    · rw [List.mem_singleton.mp hr]
      exact removal_owned hi hf hp hfound hopened

lemma fileInv_step (hi : Inv s.processes) (hf : FileInv s.processes s.file s.removals)
    (hg : OrderlyWriting s a) (h : step s a = some t) :
    FileInv t.processes t.file t.removals := by
  cases stepped h with
  | @launch p pid daemon hp ho =>
    refine fileInv_move (p := p) hf (fun q hne => ?_) (by simp [hp]) fun hne => absurd hp hne
    exact ⟨set_phase_other hne, Function.update_of_ne hne _ _⟩
  | readPid hp =>
    refine fileInv_set hf hp (by simp) rfl ?_ (by simp [Phase.settled])
    cases s.filePid <;> simp
  | kill hp =>
    refine fileInv_set hf hp (by simp) rfl ?_ (by simp [Phase.settled])
    split <;> simp
  | removeStale hp => exact fileInv_remove hi hf (by rw [hp]; rfl) (by simp [hp]) (by simp [hp])
  | @fork p pid hp hd ho =>
    have hself : (s.processes.fork p pid).phase p = .forked := set_phase_self
    refine fileInv_move (p := p) hf (fun q hne => ?_) (by simp [hp]) fun _ => ?_
    · exact ⟨set_phase_other hne, Function.update_of_ne hne _ _⟩
    · rw [hself, hp]
      exact ⟨by simp, fun _ => ⟨rfl, fun hs => (Bool.false_ne_true hs).elim⟩⟩
  | foreground hp hd => exact fileInv_set hf hp (by simp) rfl (by simp) fun _ => rfl
  | openPid hp => exact fileInv_truncate hf
  | openFails hp => exact fileInv_set hf hp (by simp) rfl (by simp) (by simp [Phase.settled])
  | writePid hp => exact fileInv_write hf hp
  | @openDevices p any hp =>
    refine fileInv_set hf hp (by simp) rfl ?_ fun _ => ?_
    · cases any <;> simp
    · cases any <;> rfl
  | startControl hp => exact fileInv_set hf hp (by simp) rfl (by simp) fun _ => rfl
  | stopControl hp => exact fileInv_set hf hp (by simp) rfl (by simp) fun _ => rfl
  | removePid hp => exact fileInv_remove hi hf (by rw [hp]; rfl) (by simp [hp]) (by simp [hp])
  | exit hp => exact fileInv_exit hf (by simp [hp])
  | die hp => exact fileInv_exit hf (hg.2 _ rfl)
  | otherStarts | otherExits => exact ⟨hf.written, hf.blank, hf.removals⟩

end Steps

theorem removes_own_or_dead_pid (as : List Action) (t : State) (hrun : exec step {} as = some t)
    (hguard : Guarded step OrderlyWriting {} as) : ∀ r ∈ t.removals, OwnOrDead r := by
  have hstep : ∀ s a t, Inv s.processes ∧ FileInv s.processes s.file s.removals →
      OrderlyWriting s a → step s a = some t →
      Inv t.processes ∧ FileInv t.processes t.file t.removals :=
    fun s a t hi hg h => ⟨inv_step hi.1 hg.1 h, fileInv_step hi.1 hi.2 hg h⟩
  have hstart : FileInv {} none [] := ⟨by simp, by simp, by simp⟩
  have hi := @guarded_invariant _ _ step OrderlyWriting _ _ _
    (fun s => Inv s.processes ∧ FileInv s.processes s.file s.removals) hstep
    ⟨inv_initial, hstart⟩ hguard hrun
  exact hi.2.removals

section Runs

theorem daemon_removes_own_file : ∃ t, exec step {}
      [.launch 0 100 true, .readPid 0, .fork 0 101, .openPid 0, .writePid 0, .openDevices 0 true,
        .startControl 0 true, .stopControl 0, .removePid 0] = some t ∧
    t.removals = [⟨101, some ⟨0, some ⟨101, 0⟩⟩, true⟩] ∧ ∀ r ∈ t.removals, OwnOrDead r := by
  refine ⟨_, rfl, rfl, ?_⟩
  refine removes_own_or_dead_pid [.launch 0 100 true, .readPid 0, .fork 0 101, .openPid 0,
    .writePid 0, .openDevices 0 true, .startControl 0 true, .stopControl 0, .removePid 0] _ rfl ?_
  refine guarded_cons ⟨trivial, by simp⟩ rfl (guarded_cons ⟨?_, by simp⟩ rfl ?_)
  · intro q hne hq
    simp [Processes.launch, Processes.set, hne, busy, Phase.pastGuard] at hq
  iterate 7 refine guarded_cons ⟨trivial, by simp⟩ rfl ?_
  trivial

theorem foreground_removes_daemon_file : ∃ t, exec step {}
      [.launch 0 100 false, .readPid 0, .foreground 0, .openDevices 0 true, .startControl 0 true,
        .launch 1 101 true, .readPid 1, .fork 1 102, .openPid 1, .writePid 1, .openDevices 1 true,
        .startControl 1 true, .stopControl 0, .removePid 0] = some t ∧
    t.processes.phase 1 = .running ∧ t.file = none ∧ ¬ ∀ r ∈ t.removals, OwnOrDead r := by
  refine ⟨_, rfl, rfl, rfl, ?_⟩
  intro h
  rcases h ⟨100, some ⟨0, some ⟨102, 1⟩⟩, true⟩ List.mem_cons_self with h | ⟨record, h, h'⟩
  · cases h
  · obtain rfl := Option.some.inj h
    simp at h'

end Runs

end PointerForce.Daemon.PidOwnership
