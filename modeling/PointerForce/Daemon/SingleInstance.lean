import PointerForce.Daemon.PidFile

/-! The single-instance guard. It reads the PID file, checks the pid and only later writes its own,
if it writes it at all, so that it guards only against processes that the file names already. -/

namespace PointerForce.Daemon.SingleInstance

open Foundations.Runs PidFile

def busy : Phase → Bool
  | .found _ | .stale => true
  | ph => ph.pastGuard

def Recorded (s : State) (p : ℕ) : Prop :=
  s.processes.daemon p ∧ (s.processes.phase p).settled ∧ s.filePid = some (s.processes.pid p)

def Refusing (s : State) (p : ℕ) : Prop :=
  ∃ pid, s.processes.phase p = .found pid ∧ (s.processes.owner pid).isSome ∧ s.filePid = some pid

def AtMostOneReader (m : Processes) (pid : ℕ) : Prop :=
  ∀ p q, m.phase p = .found pid → m.phase q = .found pid → p = q

/-- The file is read only while every other process that has read it is a daemon that it names, or
about to refuse because of the live process that it names; and no process ends while two others
have read its pid and not yet checked it. -/
def Orderly (s : State) : Action → Prop
  | .readPid p => ∀ q ≠ p, busy (s.processes.phase q) → Recorded s q ∨ Refusing s q
  | .exit p | .die p => AtMostOneReader s.processes (s.processes.pid p)
  | .otherExits pid => AtMostOneReader s.processes pid
  | _ => True

def Follows (m : Processes) (p q : ℕ) : Prop :=
  (m.phase p).settled ∧ m.phase q = .found (m.pid p)

def Paired (m : Processes) (p q : ℕ) : Prop :=
  Follows m p q ∨ Follows m q p ∨
    ∃ pid, (m.owner pid).isSome ∧ m.phase p = .found pid ∧ m.phase q = .found pid

structure Inv (m : Processes) : Prop where
  owned : ∀ p, (m.phase p).live → m.owner (m.pid p) = some (.process p)
  paired : ∀ p q, p ≠ q → busy (m.phase p) → busy (m.phase q) → Paired m p q

section Processes

variable {m m' : Processes} {p q pid : ℕ} {ph : Phase}

@[simp] lemma set_phase_self : (m.set p ph).phase p = ph := by simp [Processes.set]

lemma set_phase_other (h : q ≠ p) : (m.set p ph).phase q = m.phase q := by
  simp [Processes.set, h]

lemma live_of_busy (h : busy ph) : ph.live := by cases ph <;> first | rfl | cases h

lemma busy_of_pastGuard (h : ph.pastGuard) : busy ph := by cases ph <;> first | rfl | cases h

lemma settled_pastGuard (h : ph.settled) : ph.pastGuard := by cases ph <;> first | rfl | cases h

lemma Paired.symm (h : Paired m p q) : Paired m q p := by
  rcases h with h | h | ⟨pid, ho, hp, hq⟩
  · exact .inr (.inl h)
  · exact .inl h
  · exact .inr (.inr ⟨pid, ho, hq, hp⟩)

lemma Paired.of_same (h : Paired m p q) (hp : m'.phase p = m.phase p)
    (hq : m'.phase q = m.phase q) (hpp : m'.pid p = m.pid p) (hpq : m'.pid q = m.pid q)
    (ho : ∀ pid, m.phase p = .found pid → m.phase q = .found pid → (m.owner pid).isSome →
      (m'.owner pid).isSome) : Paired m' p q := by
  rw [Paired, Follows, Follows, hp, hq, hpp, hpq]
  rcases h with h | h | ⟨pid, hs, hfp, hfq⟩
  · exact .inl h
  · exact .inr (.inl h)
  · exact .inr (.inr ⟨pid, ho pid hfp hfq hs, hfp, hfq⟩)

lemma Paired.found (h : Paired m p q) :
    (∃ pid, m.phase p = .found pid) ∨ ∃ pid, m.phase q = .found pid := by
  rcases h with ⟨-, h⟩ | ⟨-, h⟩ | ⟨pid, -, h, -⟩
  · exact .inr ⟨_, h⟩
  · exact .inl ⟨_, h⟩
  · exact .inl ⟨pid, h⟩

lemma Inv.eq_of_not_found (hi : Inv m) (hp : busy (m.phase p)) (hq : busy (m.phase q))
    (hfp : ∀ pid, m.phase p ≠ .found pid) (hfq : ∀ pid, m.phase q ≠ .found pid) : p = q := by
  by_contra hne
  rcases (hi.paired p q hne hp hq).found with ⟨pid, h⟩ | ⟨pid, h⟩
  · exact hfp pid h
  · exact hfq pid h

lemma not_found_of_pastGuard (h : ph.pastGuard) (pid : ℕ) : ph ≠ .found pid := by
  rintro rfl
  cases h

lemma alone (hi : Inv m) (hp : busy (m.phase p)) (hf : ∀ pid, m.phase p ≠ .found pid)
    (hs : (m.phase p).settled = false) : ∀ q ≠ p, busy (m.phase q) = false := by
  intro q hne
  by_contra hq
  rw [Bool.not_eq_false] at hq
  rcases hi.paired p q hne.symm hp hq with ⟨h, -⟩ | ⟨-, h⟩ | ⟨pid, -, h, -⟩
  · rw [hs] at h
    cases h
  · exact hf _ h
  · exact hf pid h

lemma alone_of_dead (hi : Inv m) (hp : m.phase p = .found pid) (ho : m.owner pid = none) :
    ∀ q ≠ p, busy (m.phase q) = false := by
  intro q hne
  by_contra hq
  rw [Bool.not_eq_false] at hq
  rcases hi.paired p q hne.symm (by rw [hp]; rfl) hq with ⟨h, -⟩ | ⟨-, h⟩ | ⟨pid', hs, h, -⟩
  · rw [hp] at h
    cases h
  · obtain rfl : m.pid q = pid := Phase.found.inj (h.symm.trans hp)
    rw [hi.owned q (live_of_busy hq)] at ho
    cases ho
  · obtain rfl : pid' = pid := Phase.found.inj (h.symm.trans hp)
    rw [ho] at hs
    cases hs

lemma inv_set (hi : Inv m) (hlive : (m.phase p).live)
    (h : busy ph → ∀ q ≠ p, busy (m.phase q) → Paired (m.set p ph) p q) : Inv (m.set p ph) := by
  refine ⟨?_, ?_⟩
  · intro q hq
    by_cases hqp : q = p
    · exact hqp ▸ hi.owned p hlive
    · exact hi.owned q (set_phase_other hqp ▸ hq)
  · intro q r hne hq hr
    by_cases hqp : q = p
    · subst hqp
      rw [set_phase_self] at hq
      rw [set_phase_other hne.symm] at hr
      exact h hq r hne.symm hr
    · rw [set_phase_other hqp] at hq
      by_cases hrp : r = p
      · subst hrp
        rw [set_phase_self] at hr
        exact (h hr q hqp hq).symm
      · rw [set_phase_other hrp] at hr
        exact (hi.paired q r hne hq hr).of_same (set_phase_other hqp) (set_phase_other hrp) rfl rfl
          fun _ _ _ ho => ho

lemma inv_set_alone (hi : Inv m) (hlive : (m.phase p).live)
    (h : ∀ q ≠ p, busy (m.phase q) = false) : Inv (m.set p ph) := by
  refine inv_set hi hlive fun _ q hne hq => ?_
  rw [h q hne] at hq
  cases hq

lemma inv_set_settled (hi : Inv m) (hs : (m.phase p).settled) (hph : ph.settled) :
    Inv (m.set p ph) := by
  have hbusy := busy_of_pastGuard (settled_pastGuard hs)
  refine inv_set hi (live_of_busy hbusy) fun _ q hne hq => ?_
  rcases hi.paired p q hne.symm hbusy hq with ⟨-, h⟩ | ⟨-, h⟩ | ⟨pid, -, h, -⟩
  · exact .inl ⟨set_phase_self.symm ▸ hph, (set_phase_other hne).trans h⟩
  · rw [h] at hs
    cases hs
  · rw [h] at hs
    cases hs

lemma inv_set_idle (hi : Inv m) (hlive : (m.phase p).live)
    (h : busy ph = false) : Inv (m.set p ph) := by
  refine inv_set hi hlive fun hb => ?_
  rw [h] at hb
  cases hb

lemma inv_launch (hi : Inv m) (hp : m.phase p = .absent) (ho : m.owner pid = none)
    (daemon : Bool) : Inv (m.launch p pid daemon) := by
  have hother : ∀ q, q ≠ p → (m.launch p pid daemon).phase q = m.phase q ∧
      (m.launch p pid daemon).pid q = m.pid q := by
    intro q hne
    exact ⟨set_phase_other hne, Function.update_of_ne hne _ _⟩
  have hself : (m.launch p pid daemon).phase p = .starting := set_phase_self
  refine ⟨?_, ?_⟩
  · intro q hq
    by_cases hqp : q = p
    · subst hqp
      simp [Processes.launch]
    · obtain ⟨hphase, hpid⟩ := hother q hqp
      have hown := hi.owned q (hphase ▸ hq)
      have hne : m.pid q ≠ pid := fun he => by simp [← he, hown] at ho
      rw [hpid]
      exact (Function.update_of_ne hne _ _).trans hown
  · intro q r hne hq hr
    have hqp : q ≠ p := by
      rintro rfl
      rw [hself] at hq
      cases hq
    have hrp : r ≠ p := by
      rintro rfl
      rw [hself] at hr
      cases hr
    obtain ⟨hq', hpq⟩ := hother q hqp
    obtain ⟨hr', hpr⟩ := hother r hrp
    refine (hi.paired q r hne (hq' ▸ hq) (hr' ▸ hr)).of_same hq' hr' hpq hpr fun n _ _ hn => ?_
    have hne : n ≠ pid := fun he => by simp [he, ho] at hn
    rw [Processes.launch]
    simpa [hne] using hn

lemma inv_fork (hi : Inv m) (hp : m.phase p = .passed) (ho : m.owner pid = none) :
    Inv (m.fork p pid) := by
  have halone := alone hi (p := p) (by rw [hp]; rfl) (by simp [hp]) (by rw [hp]; rfl)
  have hown := hi.owned p (by rw [hp]; rfl)
  refine ⟨?_, ?_⟩
  · intro q hq
    by_cases hqp : q = p
    · subst hqp
      simp [Processes.fork]
    · have hphase : (m.fork p pid).phase q = m.phase q := set_phase_other hqp
      have hownq := hi.owned q (hphase ▸ hq)
      have hne : m.pid q ≠ pid := fun he => by simp [← he, hownq] at ho
      have hne' : m.pid q ≠ m.pid p := by
        intro he
        rw [he, hown] at hownq
        exact hqp (Owner.process.inj (Option.some.inj hownq)).symm
      simp [Processes.fork, hqp, hne, hne', hownq]
  · intro q r hne hq hr
    -- nobody else is busy
    by_cases hqp : q = p
    · have hrp : r ≠ p := fun hrp => hne (hqp.trans hrp.symm)
      have hphase : (m.fork p pid).phase r = m.phase r := set_phase_other hrp
      rw [hphase, halone r hrp] at hr
      cases hr
    · have hphase : (m.fork p pid).phase q = m.phase q := set_phase_other hqp
      rw [hphase, halone q hqp] at hq
      cases hq

lemma inv_exit (hi : Inv m) (hlive : (m.phase p).live) (hone : AtMostOneReader m (m.pid p)) :
    Inv (m.exit p) := by
  have hself : (m.exit p).phase p = .exited := set_phase_self
  have hother : ∀ q, q ≠ p → (m.exit p).phase q = m.phase q := fun q hne => set_phase_other hne
  refine ⟨?_, ?_⟩
  · intro q hq
    have hqp : q ≠ p := by
      rintro rfl
      rw [hself] at hq
      cases hq
    have hown := hi.owned q (hother q hqp ▸ hq)
    have hne : m.pid q ≠ m.pid p := by
      intro he
      rw [he, hi.owned p hlive] at hown
      exact hqp (Owner.process.inj (Option.some.inj hown)).symm
    exact (Function.update_of_ne hne _ _).trans hown
  · intro q r hne hq hr
    have hqp : q ≠ p := by
      rintro rfl
      rw [hself] at hq
      cases hq
    have hrp : r ≠ p := by
      rintro rfl
      rw [hself] at hr
      cases hr
    refine (hi.paired q r hne (hother q hqp ▸ hq) (hother r hrp ▸ hr)).of_same (hother q hqp)
      (hother r hrp) rfl rfl fun n hfq hfr hn => ?_
    have hnp : n ≠ m.pid p := by
      rintro rfl
      exact hne (hone q r hfq hfr)
    simpa [Processes.exit, hnp] using hn

lemma inv_otherStarts (hi : Inv m) (ho : m.owner pid = none) :
    Inv (m.setOwner pid (some .other)) := by
  refine ⟨?_, ?_⟩
  · intro q hq
    have hown := hi.owned q hq
    have hne : m.pid q ≠ pid := fun he => by simp [← he, hown] at ho
    exact (Function.update_of_ne hne _ _).trans hown
  · intro q r hne hq hr
    refine (hi.paired q r hne hq hr).of_same rfl rfl rfl rfl fun n _ _ hn => ?_
    have hne : n ≠ pid := fun he => by simp [he, ho] at hn
    simpa [Processes.setOwner, hne] using hn

lemma inv_otherExits (hi : Inv m) (ho : m.owner pid = some .other)
    (hone : AtMostOneReader m pid) : Inv (m.setOwner pid none) := by
  refine ⟨?_, ?_⟩
  · intro q hq
    have hown := hi.owned q hq
    have hne : m.pid q ≠ pid := fun he => by simp [← he, hown] at ho
    exact (Function.update_of_ne hne _ _).trans hown
  · intro q r hne hq hr
    refine (hi.paired q r hne hq hr).of_same rfl rfl rfl rfl fun n hfq hfr hn => ?_
    have hnp : n ≠ pid := by
      rintro rfl
      exact hne (hone q r hfq hfr)
    simpa [Processes.setOwner, hnp] using hn

end Processes

section Steps

variable {s t : State} {a : Action} {p : ℕ}

lemma inv_readPid (hi : Inv s.processes) (hp : s.processes.phase p = .starting)
    (hg : Orderly s (.readPid p)) :
    Inv (s.processes.set p (s.filePid.elim .passed .found)) := by
  refine inv_set hi (by rw [hp]; rfl) fun _ q hne hq => ?_
  rcases hg q hne hq with ⟨-, hs, hf⟩ | ⟨pid, hfound, ho, hf⟩
  · exact .inr (.inl ⟨by rwa [set_phase_other hne], by rw [hf]; exact set_phase_self⟩)
  · refine .inr (.inr ⟨pid, ho, by rw [hf]; exact set_phase_self, ?_⟩)
    rw [set_phase_other hne, hfound]

lemma inv_kill (hi : Inv s.processes) {pid : ℕ} (hp : s.processes.phase p = .found pid) :
    Inv (s.processes.set p (if s.processes.owner pid = none then .stale else .ending)) := by
  have hlive : (s.processes.phase p).live := by rw [hp]; rfl
  split
  · next ho => exact inv_set_alone hi hlive (alone_of_dead hi hp ho)
  · exact inv_set_idle hi hlive rfl

lemma inv_window (hi : Inv s.processes) {old : Phase} (hp : s.processes.phase p = old)
    (hbusy : busy old) (hf : ∀ pid, old ≠ .found pid) (hs : old.settled = false) (ph : Phase) :
    Inv (s.processes.set p ph) := by
  subst hp
  exact inv_set_alone hi (live_of_busy hbusy) (alone hi hbusy hf hs)

lemma truncate_processes (s : State) (p : ℕ) :
    ∃ inode, (s.truncate p).processes = s.processes.set p (.opened inode) := by
  rw [State.truncate]
  cases s.file with
  | none => exact ⟨_, rfl⟩
  | some f => exact ⟨_, rfl⟩

lemma inv_step (hi : Inv s.processes) (hg : Orderly s a) (h : step s a = some t) :
    Inv t.processes := by
  cases stepped h with
  | launch hp ho => exact inv_launch hi hp ho _
  | readPid hp => exact inv_readPid hi hp hg
  | kill hp => exact inv_kill hi hp
  | removeStale hp => exact inv_window hi hp rfl (by simp) rfl _
  | fork hp hd ho => exact inv_fork hi hp ho
  | foreground hp hd => exact inv_window hi hp rfl (by simp) rfl _
  | @openPid p hp =>
    obtain ⟨inode, ht⟩ := truncate_processes s p
    rw [ht]
    exact inv_window hi hp rfl (by simp) rfl _
  | openFails hp => exact inv_window hi hp rfl (by simp) rfl _
  | writePid hp => exact inv_window hi hp rfl (by simp) rfl _
  | @openDevices p any hp =>
    refine inv_set_settled hi (by rw [hp]; rfl) ?_
    cases any <;> rfl
  | startControl hp => exact inv_set_settled hi (by rw [hp]; rfl) rfl
  | stopControl hp => exact inv_set_settled hi (by rw [hp]; rfl) rfl
  | removePid hp => exact inv_set_idle hi (by rw [hp]; rfl) rfl
  | exit hp => exact inv_exit hi (by rw [hp]; rfl) hg
  | die hp => exact inv_exit hi hp hg
  | otherStarts ho => exact inv_otherStarts hi ho
  | otherExits ho => exact inv_otherExits hi ho hg

lemma inv_initial : Inv {} :=
  ⟨fun _ h => (Bool.false_ne_true h).elim, fun _ _ _ h => (Bool.false_ne_true h).elim⟩

lemma inv_run {as : List Action} (hrun : exec step {} as = some t)
    (hguard : Guarded step Orderly {} as) : Inv t.processes := by
  apply @guarded_invariant _ _ step Orderly _ _ _ (fun s => Inv s.processes) ?_ inv_initial hguard hrun
  exact fun _ _ _ => inv_step

end Steps

theorem one_instance (as : List Action) (t : State) (hrun : exec step {} as = some t)
    (hguard : Guarded step Orderly {} as) (p q : ℕ) (hp : (t.processes.phase p).pastGuard)
    (hq : (t.processes.phase q).pastGuard) : p = q := by
  exact (inv_run hrun hguard).eq_of_not_found (busy_of_pastGuard hp) (busy_of_pastGuard hq)
    (not_found_of_pastGuard hp) (not_found_of_pastGuard hq)

section Runs

def daemonRun : List Action :=
  [.launch 0 100 true, .readPid 0, .fork 0 101, .openPid 0, .writePid 0, .openDevices 0 true,
    .startControl 0 true, .launch 1 102 false, .readPid 1, .kill 1]

lemma orderly_daemonRun : Guarded step Orderly {} daemonRun := by
  refine guarded_cons trivial rfl (guarded_cons ?_ rfl ?_)
  · intro q hne hq
    simp [Processes.launch, Processes.set, hne, busy, Phase.pastGuard] at hq
  iterate 6 refine guarded_cons trivial rfl ?_
  refine guarded_cons ?_ rfl (guarded_cons trivial rfl trivial)
  intro q hne hq
  by_cases hq0 : q = 0
  · subst hq0
    exact .inl ⟨rfl, rfl, rfl⟩
  · simp [Processes.launch, Processes.fork, Processes.set, State.set, State.truncate, State.write,
      hne, hq0, busy, Phase.pastGuard] at hq

theorem second_start_refused : ∃ t, exec step {} daemonRun = some t ∧
    t.processes.phase 0 = .running ∧ t.processes.phase 1 = .ending ∧
    ∀ p q, (t.processes.phase p).pastGuard → (t.processes.phase q).pastGuard → p = q := by
  refine ⟨_, rfl, rfl, rfl, ?_⟩
  exact one_instance daemonRun _ rfl orderly_daemonRun

theorem two_foreground_instances : ∃ t, exec step {}
      [.launch 0 100 false, .readPid 0, .foreground 0, .openDevices 0 true, .startControl 0 true,
        .launch 1 101 false, .readPid 1, .foreground 1, .openDevices 1 true,
        .startControl 1 true] = some t ∧
    t.processes.phase 0 = .running ∧ t.processes.phase 1 = .running ∧
    ¬ ∀ p q, (t.processes.phase p).pastGuard → (t.processes.phase q).pastGuard → p = q := by
  refine ⟨_, rfl, rfl, rfl, ?_⟩
  intro h
  exact absurd (h 0 1 rfl rfl) zero_ne_one

end Runs

end PointerForce.Daemon.SingleInstance
