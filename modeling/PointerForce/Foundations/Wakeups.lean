import PointerForce.Foundations.Monitors

/-! Monitors that lose no wake-up. What the waiting calls wait for is counted: while one of them waits,
as many calls are about to take of it or to signal as there is to take. -/

namespace PointerForce.Foundations.Monitors

open Runs

variable {State Op Ret : Type} (M : Monitor State Op Ret)

/-- A call that waits, waits for the level to rise, and lowers it; a call that raises it signals. -/
structure Counted (level : State → ℕ) : Prop where
  unready : ∀ s op, M.ready s op = false → level s = 0
  raised : ∀ s op, level (M.act s op).1 ≤ level s + if M.signal op = .one then 1 else 0
  lowered : ∀ s r op, M.ready r op = false → level (M.act s op).1 ≤ level s - 1

structure Closing (closed : State → Prop) : Prop where
  ready : ∀ s op, closed s → M.ready s op = true
  kept : ∀ s op, closed s → closed (M.act s op).1
  announced : ∀ s op, ¬ closed s → closed (M.act s op).1 → M.signal op = .all
  closes : ∀ s op, M.signal op = .all → closed (M.act s op).1

def tokens : Phase State Op Ret → ℕ
  | .entering _ awake _ | .inside _ awake _ | .working _ awake _ => awake.toNat
  | .leaving _ .one => 1
  | _ => 0

def Awaits (op : Op) : Prop := ∃ r, M.ready r op = false

def AwaitsIfAwake : Phase State Op Ret → Prop
  | .entering op awake _ | .inside op awake _ | .working op awake _ => awake = true → Awaits M op
  | .parking op | .waiting op => Awaits M op
  | _ => True

def Phase.mayHold : Phase State Op Ret → Bool
  | .leaving _ _ => true
  | p => p.holds

def OwnsLock (lock : Option ℕ) (id : ℕ) (p : Phase State Op Ret) : Prop := lock = some id → p.mayHold

def World.anyWaiting (w : World State Op Ret) : Prop := ∃ id, (w.phase id).isWaiting

structure Watched (level : State → ℕ) (w : World State Op Ret) : Prop where
  started : ∀ id, (w.phase id) ≠ .fresh → id ∈ w.started
  awaits : ∀ id, AwaitsIfAwake M (w.phase id)
  owner : ∀ id, OwnsLock w.lock id (w.phase id)
  enough : w.anyWaiting → level w.state ≤ ∑ id ∈ w.started, tokens (w.phase id)

def Announced (closed : State → Prop) (w : World State Op Ret) : Prop :=
  closed w.state → w.anyWaiting → ∃ id ret, w.phase id = .leaving ret .all

def Told (closed : State → Prop) (w : World State Op Ret) : Prop :=
  ∀ id ret, w.phase id = .leaving ret .all → closed w.state

section Sums

variable {w : World State Op Ret} {id j : ℕ}

lemma sum_put (f : Phase State Op Ret → ℕ) (hid : id ∈ w.started) (p : Phase State Op Ret) :
    ∑ j ∈ w.started, f ((w.put id p).phase j) + f (w.phase id) =
      ∑ j ∈ w.started, f (w.phase j) + f p := by
  have hsum := sum_update hid (f ∘ w.phase) (f p)
  rw [← Function.comp_update] at hsum
  exact hsum

lemma anyWaiting_put {p : Phase State Op Ret} (h : (w.put id p).anyWaiting) :
    p.isWaiting ∨ w.anyWaiting := by
  obtain ⟨j, hj⟩ := h
  by_cases he : j = id
  · subst he
    rw [put_phase_self] at hj
    exact .inl hj
  · rw [put_phase_ne w he] at hj
    exact .inr ⟨j, hj⟩

lemma wake_waiting (p : Phase State Op Ret) : (wake M p).isWaiting = false := by
  cases p <;> rfl

lemma not_anyWaiting_wakeAll (w : World State Op Ret) : ¬ (w.wakeAll M).anyWaiting := by
  rintro ⟨j, hj⟩
  rw [show (w.wakeAll M).phase j = wake M (w.phase j) from rfl, wake_waiting] at hj
  cases hj

end Sums

section Steps

variable {M} {level : State → ℕ} {closed : State → Prop} {s start : State} {id j : ℕ} {m : Move}
  {lock lock' : Option ℕ} {p p' : Phase State Op Ret} {w w' : World State Op Ret}
  {order : List (Linearizability.Call Op Ret)}

lemma move_awaits (hm : move M s id m lock p = some (lock', p')) (hp : AwaitsIfAwake M p) :
    AwaitsIfAwake M p' := by
  cases moved hm with
  | acquire | ready | wait => exact hp
  | unready hr => exact ⟨s, hr⟩
  | timeout | spurious => exact fun _ => hp
  | release => trivial

lemma move_owner (hm : move M s id m lock p = some (lock', p')) (hp : OwnsLock lock id p) :
    OwnsLock lock' id p' ∧ ∀ j, j ≠ id → lock' = some j → lock = some j := by
  cases moved hm with
  | acquire => exact ⟨fun _ => rfl, fun j hj h => absurd (Option.some.inj h).symm hj⟩
  | ready | unready => exact ⟨fun _ => rfl, fun j _ h => h⟩
  | wait | release => exact ⟨fun h => (by cases h), fun j _ h => (by cases h)⟩
  | timeout | spurious => exact ⟨fun h => (Bool.false_ne_true (hp h)).elim, fun j _ h => h⟩

lemma move_tokens (hc : Counted M level) (hm : move M s id m lock p = some (lock', p'))
    (hk : Knows M s p) : level s = 0 ∨ tokens p ≤ tokens p' ∧ p'.isWaiting = false := by
  cases moved hm with
  | acquire | ready | release => exact .inr ⟨le_rfl, rfl⟩
  | unready hr => exact .inl (hc.unready s _ hr)
  | wait => exact .inl (hc.unready s _ hk)
  | timeout | spurious => exact .inr ⟨Nat.zero_le _, rfl⟩

lemma move_waits (hm : move M s id m lock p = some (lock', p')) (hw : p'.isWaiting) :
    ∃ op, p = .parking op := by
  cases moved hm with
  | @wait op => exact ⟨op, rfl⟩
  | _ => cases hw

lemma ne_fresh_of_waiting (h : p.isWaiting) : p ≠ .fresh := by
  rintro rfl
  cases h

lemma not_anyWaiting (hs : ∀ id, w.phase id ≠ .fresh → id ∈ w.started)
    (hnone : ∀ j ∈ w.started, (w.phase j).isWaiting = false) : ¬ w.anyWaiting := by
  rintro ⟨j, hj⟩
  rw [hnone j (hs j (ne_fresh_of_waiting hj))] at hj
  cases hj

lemma started_put (hw : ∀ id, w.phase id ≠ .fresh → id ∈ w.started) (hid : w.phase id ≠ .fresh)
    (j : ℕ) (hj : (w.put id p).phase j ≠ .fresh) : j ∈ w.started := by
  by_cases he : j = id
  · subst he
    exact hw j hid
  · rw [put_phase_ne w he] at hj
    exact hw j hj

lemma watched_invoke {op : Op} (hw : Watched M level w) (hp : w.phase id = .fresh) :
    Watched M level { w.put id (.entering op false false) with
      started := insert id w.started
      history := w.history ++ [.invoke id op] } := by
  refine ⟨fun j hj => ?_, forall_put (fun h => (Bool.false_ne_true h).elim) fun j _ => hw.awaits j,
    forall_put (fun h => ?_) fun j _ => hw.owner j, fun hwait => ?_⟩
  · by_cases he : j = id
    · exact he ▸ Finset.mem_insert_self ..
    · rw [show World.phase _ j = _ from put_phase_ne w he _] at hj
      exact Finset.mem_insert_of_mem (hw.started j hj)
  · have ho := hw.owner id h
    rw [hp] at ho
    cases ho
  · have hold := (anyWaiting_put hwait).resolve_left Bool.false_ne_true
    refine (hw.enough hold).trans ?_
    refine (Finset.sum_le_sum fun j _ => ?_).trans
      (Finset.sum_le_sum_of_subset (Finset.subset_insert id w.started))
    by_cases he : j = id
    · rw [he, hp]
      exact Nat.zero_le _
    · rw [show World.phase _ j = _ from put_phase_ne w he _]

lemma watched_move (hc : Counted M level) (hi : Inv M start w order) (hw : Watched M level w)
    (hm : move M w.state id m w.lock (w.phase id) = some (lock', p')) :
    Watched M level { w.put id p' with lock := lock' } := by
  have hne : w.phase id ≠ .fresh := by
    intro hf
    rw [hf] at hm
    cases moved hm
  obtain ⟨hown, hothers⟩ := move_owner hm (hw.owner id)
  refine ⟨started_put hw.started hne, forall_put (move_awaits hm (hw.awaits id)) fun j _ => hw.awaits j,
    forall_put hown fun j hj h => hw.owner j (hothers j hj h), fun hwait => ?_⟩
  rcases move_tokens hc hm (hi.knows id) with hz | ⟨htok, hnot⟩
  · exact hz.trans_le (Nat.zero_le _)
  · have hold := (anyWaiting_put hwait).resolve_left (by rw [hnot]; exact Bool.false_ne_true)
    have hsum := sum_put tokens (hw.started id hne) p'
    have henough := hw.enough hold
    change level w.state ≤ ∑ j ∈ w.started, tokens ((w.put id p').phase j)
    omega

lemma watched_commit (hc : Counted M level) {op : Op} {awake : Bool} {seen : State}
    (hi : Inv M start w order) (hw : Watched M level w) (hp : w.phase id = .working op awake seen) :
    Watched M level { w.put id (.leaving (M.act seen op).2 (M.signal op)) with
      state := (M.act seen op).1 } := by
  have hne : w.phase id ≠ .fresh := hp.trans_ne (by simp)
  have ha := hw.awaits id
  rw [hp] at ha
  obtain rfl := hi.seen_eq hp
  refine ⟨started_put hw.started hne, forall_put trivial fun j _ => hw.awaits j,
    forall_put (fun _ => rfl) fun j _ => hw.owner j, fun hwait => ?_⟩
  have hold := (anyWaiting_put hwait).resolve_left Bool.false_ne_true
  have hsum := sum_put tokens (hw.started id hne) (.leaving (M.act w.state op).2 (M.signal op))
  have henough := hw.enough hold
  rw [hp] at hsum
  change level (M.act w.state op).1 ≤ ∑ j ∈ w.started, tokens ((w.put id _).phase j)
  cases awake with
  | true =>
    obtain ⟨r, hr⟩ := ha rfl
    have hlow := hc.lowered w.state r op hr
    have hone : tokens (.working op true w.state : Phase State Op Ret) = 1 := rfl
    omega
  | false =>
    have hraise := hc.raised w.state op
    have hzero : tokens (.working op false w.state : Phase State Op Ret) = 0 := rfl
    have hnew : tokens (.leaving (M.act w.state op).2 (M.signal op) : Phase State Op Ret) =
        if M.signal op = .one then 1 else 0 := by
      cases M.signal op <;> rfl
    omega

lemma silenced_awaits (ret : Ret) (hw : ∀ j, AwaitsIfAwake M (w.phase j)) :
    ∀ j, AwaitsIfAwake M ((w.put id (.leaving ret .silent)).phase j) :=
  forall_put trivial fun j _ => hw j

lemma silenced_owner (ret : Ret) (hw : ∀ j, OwnsLock lock j (w.phase j)) :
    ∀ j, OwnsLock lock j ((w.put id (.leaving ret .silent)).phase j) :=
  forall_put (fun _ => rfl) fun j _ => hw j

lemma watched_silenced {ret : Ret} {owed : Signal} (hw : Watched M level w)
    (hp : w.phase id = .leaving ret owed)
    (henough : (w.put id (.leaving ret .silent)).anyWaiting →
      level w.state ≤ ∑ j ∈ w.started, tokens ((w.put id (.leaving ret .silent)).phase j)) :
    Watched M level (w.put id (.leaving ret .silent)) :=
  ⟨started_put hw.started (hp.trans_ne (by simp)), silenced_awaits ret hw.awaits,
    silenced_owner ret hw.owner, henough⟩

lemma wake_awaits (h : AwaitsIfAwake M p) : AwaitsIfAwake M (wake M p) := by
  cases p with
  | waiting op => exact fun _ => h
  | _ => exact h

lemma wake_owner (h : OwnsLock lock id p) : OwnsLock lock id (wake M p) := by
  cases p <;> exact h

lemma wake_ne_fresh (h : wake M p ≠ .fresh) : p ≠ .fresh := by
  rintro rfl
  exact h rfl

lemma watched_wakeOne {ret : Ret} (hw : Watched M level w) (hp : w.phase id = .leaving ret .one)
    (hj : (w.phase j).isWaiting) :
    Watched M level ((w.put id (.leaving ret .silent)).put j (wake M (w.phase j))) := by
  have hne : w.phase id ≠ .fresh := hp.trans_ne (by simp)
  have hjne := ne_fresh_of_waiting hj
  have hji : j ≠ id := by
    rintro rfl
    rw [hp] at hj
    cases hj
  have hput := put_phase_ne w hji (.leaving ret .silent)
  have hstarted : ∀ k, (w.put id (.leaving ret .silent)).phase k ≠ .fresh → k ∈ w.started :=
    started_put hw.started hne
  refine ⟨started_put hstarted (hput.trans_ne hjne), ?_, ?_, fun _ => ?_⟩
  · exact forall_put (wake_awaits (hw.awaits j)) fun k _ => silenced_awaits ret hw.awaits k
  · exact forall_put (wake_owner (hw.owner j)) fun k _ => silenced_owner ret hw.owner k
  · -- the token that the signal was is now the one of the call that it woke
    have hold := hw.enough ⟨j, hj⟩
    have hfirst := sum_put tokens (hw.started id hne) (.leaving ret .silent)
    have hsecond := @sum_put _ _ _ (w.put id (.leaving ret .silent)) j tokens (hw.started j hjne)
      (wake M (w.phase j))
    rw [hput] at hsecond
    have hwoken : tokens (wake M (w.phase j)) = 1 := by
      revert hj
      cases w.phase j <;> simp [Phase.isWaiting, wake, tokens]
    have hsilent : tokens (.leaving ret .silent : Phase State Op Ret) = 0 := rfl
    have howed : tokens (w.phase id) = 1 := by rw [hp]; rfl
    have hslept : tokens (w.phase j) = 0 := by
      revert hj
      cases w.phase j <;> simp [Phase.isWaiting, tokens]
    rw [hwoken, hslept] at hsecond
    rw [howed, hsilent] at hfirst
    change level w.state ≤ ∑ k ∈ w.started, tokens (World.phase _ k)
    change ∑ k ∈ w.started, tokens (World.phase _ k) + 0 = ∑ k ∈ w.started, _ + 1 at hsecond
    omega

lemma watched_wakeNone {ret : Ret} (hw : Watched M level w) (hp : w.phase id = .leaving ret .one)
    (hnone : ∀ j ∈ w.started, (w.phase j).isWaiting = false) :
    Watched M level (w.put id (.leaving ret .silent)) := by
  refine watched_silenced hw hp fun hwait => ?_
  have hold := (anyWaiting_put hwait).resolve_left Bool.false_ne_true
  exact absurd hold (not_anyWaiting hw.started hnone)

lemma watched_wakeAll {ret : Ret} (hw : Watched M level w) (hp : w.phase id = .leaving ret .all) :
    Watched M level ((w.put id (.leaving ret .silent)).wakeAll M) := by
  refine ⟨fun j hj => ?_, fun j => wake_awaits (silenced_awaits ret hw.awaits j),
    fun j => wake_owner (silenced_owner ret hw.owner j),
    fun hwait => (not_anyWaiting_wakeAll M _ hwait).elim⟩
  exact started_put hw.started (hp.trans_ne (by simp)) j (wake_ne_fresh hj)

lemma watched_respond {ret : Ret} (hw : Watched M level w) (hp : w.phase id = .leaving ret .silent)
    (hl : w.lock ≠ some id) (h : Linearizability.History Op Ret) :
    Watched M level { w.put id .returned with history := h } := by
  have hne : w.phase id ≠ .fresh := hp.trans_ne (by simp)
  refine ⟨started_put hw.started hne, forall_put trivial fun j _ => hw.awaits j,
    forall_put (fun h => absurd h hl) fun j _ => hw.owner j, fun hwait => ?_⟩
  have hold := (anyWaiting_put hwait).resolve_left Bool.false_ne_true
  have hsum := sum_put tokens (hw.started id hne) .returned
  have hsilent : tokens (.leaving ret .silent : Phase State Op Ret) = 0 := rfl
  have henough := hw.enough hold
  rw [hp, hsilent] at hsum
  change level w.state ≤ ∑ j ∈ w.started, tokens ((w.put id .returned).phase j)
  omega

lemma watched_step (hc : Counted M level) {a : Action Op} (hi : Inv M start w order)
    (hw : Watched M level w) (h : step M w a = some w') : Watched M level w' := by
  cases stepped h with
  | invoke hp => exact watched_invoke hw hp
  | move hm => exact watched_move hc hi hw hm
  | commit hp => exact watched_commit hc hi hw hp
  | wakeOne hp hj => exact watched_wakeOne hw hp hj
  | wakeNone hp hnone => exact watched_wakeNone hw hp hnone
  | wakeAll hp => exact watched_wakeAll hw hp
  | respond hp hl => exact watched_respond hw hp hl _

lemma announced_put (hne : ∀ ret, w.phase id ≠ .leaving ret .all)
    (h : ∃ j ret, w.phase j = .leaving ret .all) :
    ∃ j ret, (w.put id p).phase j = .leaving ret .all := by
  obtain ⟨j, ret, hj⟩ := h
  have hji : j ≠ id := by
    rintro rfl
    exact hne ret hj
  exact ⟨j, ret, (put_phase_ne w hji p).trans hj⟩

lemma announced_move (hc : Closing M closed) (hi : Inv M start w order) (hw : Announced closed w)
    (hm : move M w.state id m w.lock (w.phase id) = some (lock', p')) :
    Announced closed { w.put id p' with lock := lock' } := by
  intro hclosed hwait
  have hold : w.anyWaiting := by
    refine (anyWaiting_put hwait).resolve_left fun hp => ?_
    obtain ⟨op, hop⟩ := move_waits hm hp
    have hk := hi.knows id
    rw [hop] at hk
    exact Bool.false_ne_true (hk.symm.trans (hc.ready w.state op hclosed))
  have hleaving := hw hclosed hold
  by_cases hid : ∃ ret, w.phase id = .leaving ret .all
  · obtain ⟨ret, hid⟩ := hid
    rcases move_op? hm with ⟨op, hop, -⟩ | ⟨rfl, -⟩
    · rw [hid] at hop
      cases hop
    · exact ⟨id, ret, (put_phase_self w id _).trans hid⟩
  · exact announced_put (fun ret h => hid ⟨ret, h⟩) hleaving

lemma announced_commit (hc : Closing M closed) {op : Op} {awake : Bool} {seen : State}
    (hi : Inv M start w order) (hw : Announced closed w) (hp : w.phase id = .working op awake seen) :
    Announced closed { w.put id (.leaving (M.act seen op).2 (M.signal op)) with
      state := (M.act seen op).1 } := by
  intro hclosed hwait
  obtain rfl := hi.seen_eq hp
  have hold := (anyWaiting_put hwait).resolve_left Bool.false_ne_true
  by_cases hbefore : closed w.state
  · exact announced_put (fun ret => hp.trans_ne (by simp)) (hw hbefore hold)
  · have hall := hc.announced w.state op hbefore hclosed
    refine ⟨id, (M.act w.state op).2, (put_phase_self w id _).trans ?_⟩
    rw [hall]

lemma announced_step (hc : Closing M closed) {a : Action Op} (hi : Inv M start w order)
    (hs : ∀ id, w.phase id ≠ .fresh → id ∈ w.started) (hw : Announced closed w)
    (h : step M w a = some w') : Announced closed w' := by
  cases stepped h with
  | invoke hp =>
    intro hclosed hwait
    have hold := (anyWaiting_put hwait).resolve_left Bool.false_ne_true
    exact announced_put (fun ret => hp.trans_ne (by simp)) (hw hclosed hold)
  | move hm => exact announced_move hc hi hw hm
  | commit hp => exact announced_commit hc hi hw hp
  | @wakeOne id j ret hp hj =>
    intro hclosed _
    refine announced_put (fun ret hret => ?_)
      (announced_put (fun ret => hp.trans_ne (by simp)) (hw hclosed ⟨j, hj⟩))
    have hji : j ≠ id := by
      rintro rfl
      rw [hp] at hj
      cases hj
    rw [put_phase_ne w hji] at hret
    rw [hret] at hj
    cases hj
  | wakeNone hp hnone =>
    intro _ hwait
    have hold := (anyWaiting_put hwait).resolve_left Bool.false_ne_true
    exact absurd hold (not_anyWaiting hs hnone)
  | wakeAll hp => exact fun _ hwait => (not_anyWaiting_wakeAll M _ hwait).elim
  | respond hp hl =>
    intro hclosed hwait
    have hold := (anyWaiting_put hwait).resolve_left Bool.false_ne_true
    exact announced_put (fun ret => hp.trans_ne (by simp)) (hw hclosed hold)

lemma told_put (hid : ∀ ret, p = .leaving ret .all → w.phase id = .leaving ret .all)
    (hw : Told closed w) : Told closed (w.put id p) := by
  intro j ret hj
  by_cases he : j = id
  · subst he
    rw [put_phase_self] at hj
    exact hw j ret (hid ret hj)
  · rw [put_phase_ne w he] at hj
    exact hw j ret hj

lemma told_step (hc : Closing M closed) {a : Action Op} (hi : Inv M start w order)
    (hw : Told closed w) (h : step M w a = some w') : Told closed w' := by
  cases stepped h with
  | invoke hp => exact told_put (fun ret h => (by cases h)) hw
  | move hm =>
    refine told_put (fun ret h => ?_) hw
    rcases move_op? hm with ⟨op, -, hop⟩ | ⟨he, -⟩
    · rw [h] at hop
      cases hop
    · exact he.symm.trans h
  | @commit id op awake seen hp =>
    intro j ret hj
    obtain rfl := hi.seen_eq hp
    by_cases he : j = id
    · subst he
      rw [show World.phase _ j = _ from put_phase_self w j _] at hj
      exact hc.closes w.state op (Phase.leaving.inj hj).2
    · rw [show World.phase _ j = _ from put_phase_ne w he _] at hj
      exact hc.kept w.state op (hw j ret hj)
  | @wakeOne id j ret hp hj =>
    refine told_put (fun ret h => ?_) (told_put (fun ret h => (by cases h)) hw)
    revert h hj
    cases w.phase j <;> simp [Phase.isWaiting, wake]
  | wakeNone hp => exact told_put (fun ret h => (by cases h)) hw
  | @wakeAll id ret hp => exact fun _ _ _ => hw id ret hp
  | respond hp => exact told_put (fun ret h => (by cases h)) hw

lemma shut_step (hc : Closing M closed) {a : Action Op} (hi : Inv M start w order)
    (hw : closed w.state ∧ ¬ w.anyWaiting) (h : step M w a = some w') :
    closed w'.state ∧ ¬ w'.anyWaiting := by
  obtain ⟨hclosed, hnone⟩ := hw
  cases stepped h with
  | invoke hp =>
    exact ⟨hclosed, fun hwait => hnone ((anyWaiting_put hwait).resolve_left Bool.false_ne_true)⟩
  | @move id m lock p hm =>
    refine ⟨hclosed, fun hwait => hnone ((anyWaiting_put hwait).resolve_left fun hp => ?_)⟩
    obtain ⟨op, hop⟩ := move_waits hm hp
    have hk := hi.knows id
    rw [hop] at hk
    exact Bool.false_ne_true (hk.symm.trans (hc.ready w.state op hclosed))
  | @commit id op awake seen hp =>
    obtain rfl := hi.seen_eq hp
    exact ⟨hc.kept w.state op hclosed,
      fun hwait => hnone ((anyWaiting_put hwait).resolve_left Bool.false_ne_true)⟩
  | @wakeOne id j ret hp hj => exact absurd ⟨j, hj⟩ hnone
  | wakeNone hp =>
    exact ⟨hclosed, fun hwait => hnone ((anyWaiting_put hwait).resolve_left Bool.false_ne_true)⟩
  | wakeAll hp => exact ⟨hclosed, not_anyWaiting_wakeAll M _⟩
  | respond hp =>
    exact ⟨hclosed, fun hwait => hnone ((anyWaiting_put hwait).resolve_left Bool.false_ne_true)⟩

lemma told_run {as : List (Action Op)} (hc : Closing M closed)
    (h : exec (step M) { state := start } as = some w) :
    (∃ order, Inv M start w order) ∧ Told closed w := by
  refine @exec_invariant _ _ (step M) _ _ _ (fun w => (∃ order, Inv M start w order) ∧ Told closed w)
    ?_ ⟨⟨[], inv_start M start⟩, fun _ _ h => (by cases h)⟩ h
  rintro v a v' ⟨⟨order, hi⟩, ht⟩ hstep
  exact ⟨inv_step hi hstep, told_step hc hi ht hstep⟩

lemma shut_run {bs : List (Action Op)} (hc : Closing M closed) (hi : Inv M start w order)
    (hw : closed w.state ∧ ¬ w.anyWaiting) (h : exec (step M) w bs = some w') :
    closed w'.state ∧ ¬ w'.anyWaiting := by
  refine (@exec_invariant _ _ (step M) _ _ _
    (fun w => (∃ order, Inv M start w order) ∧ closed w.state ∧ ¬ w.anyWaiting) ?_
    ⟨⟨order, hi⟩, hw⟩ h).2
  rintro v a v' ⟨⟨order, hi⟩, hv⟩ hstep
  exact ⟨inv_step hi hstep, shut_step hc hi hv hstep⟩

lemma watched_start (M : Monitor State Op Ret) (level : State → ℕ) (s : State) :
    Watched M level { state := s } :=
  ⟨fun _ h => (h rfl).elim, fun _ => trivial, fun _ h => (by cases h),
    fun ⟨_, h⟩ => (Bool.false_ne_true h).elim⟩

lemma watched_run {as : List (Action Op)} (hc : Counted M level) (hcl : Closing M closed)
    (h : exec (step M) { state := start } as = some w) :
    (∃ order, Inv M start w order) ∧ Watched M level w ∧ Announced closed w := by
  refine @exec_invariant _ _ (step M) _ _ _
    (fun w => (∃ order, Inv M start w order) ∧ Watched M level w ∧ Announced closed w) ?_
    ⟨⟨[], inv_start M start⟩, watched_start M level start, fun _ h => ?_⟩ h
  · rintro v a v' ⟨⟨order, hi⟩, hw, ha⟩ hstep
    exact ⟨inv_step hi hstep, watched_step hc hi hw hstep,
      announced_step hcl hi hw.started ha hstep⟩
  · obtain ⟨_, hid⟩ := h
    cases hid

end Steps

/-- The steps that the calls take by themselves: no new call, no timeout and no spurious wake-up. -/
def Action.own : Action Op → Bool
  | .invoke _ _ | .move _ .timeout | .move _ .spurious => false
  | _ => true

def Stuck (w : World State Op Ret) : Prop := ∀ a : Action Op, a.own → step M w a = none

def World.atRest (w : World State Op Ret) : Prop :=
  ∀ id, w.phase id = .fresh ∨ w.phase id = .returned ∨ (w.phase id).isWaiting

def weight (n : ℕ) : Phase State Op Ret → ℕ
  | .fresh | .returned => 0
  | .entering _ _ _ => 4 * n + 6
  | .inside _ _ _ => 4 * n + 4
  | .parking _ | .working _ _ _ => 4 * n + 3
  | .waiting _ => 4 * n + 2
  | .leaving _ .silent => 1
  | .leaving _ _ => 4 * n + 2

def World.fuel (w : World State Op Ret) : ℕ :=
  ∑ id ∈ w.started, weight w.started.card (w.phase id) + if w.lock = none then 0 else 1

section Rest

variable {M} {level : State → ℕ} {closed : State → Prop} {s start : State} {id : ℕ}
  {w w' : World State Op Ret} {order : List (Linearizability.Call Op Ret)}

lemma lock_free (hw : Watched M level w) (hs : Stuck M w) : w.lock = none := by
  cases hl : w.lock with
  | none => rfl
  | some id =>
    have ho := hw.owner id hl
    exfalso
    cases hp : w.phase id with
    | inside op awake settled => simpa [step, move, hp] using hs (.move id .test) rfl
    | parking op => simpa [step, move, hp] using hs (.move id .wait) rfl
    | working op awake seen => simpa [step, hp] using hs (.commit id) rfl
    | leaving ret owed => simpa [step, move, hp, hl] using hs (.move id .release) rfl
    | _ =>
      rw [hp] at ho
      cases ho

lemma can_notify {ret : Ret} {owed : Signal} (hp : w.phase id = .leaving ret owed)
    (hne : owed ≠ .silent) : ∃ chosen, (step M w (.notify id chosen)).isSome := by
  cases owed with
  | silent => exact absurd rfl hne
  | one =>
    by_cases hj : ∃ j, (w.phase j).isWaiting
    · obtain ⟨j, hj⟩ := hj
      exact ⟨some j, by simp [step, hp, hj]⟩
    · have hnone : ∀ j ∈ w.started, (w.phase j).isWaiting = false := fun j _ =>
        Bool.not_eq_true _ ▸ fun h => hj ⟨j, h⟩
      refine ⟨none, ?_⟩
      simp only [step, hp, if_pos hnone, Option.isSome_some]
  | all => exact ⟨none, by simp [step, hp]⟩

lemma atRest_of_stuck (hi : Inv M start w order) (hw : Watched M level w) (hs : Stuck M w) :
    w.atRest := by
  have hl := lock_free hw hs
  intro id
  have hheld : (w.phase id).holds = false := by
    by_contra hh
    have := hi.holder id (by simpa using hh)
    rw [hl] at this
    cases this
  cases hp : w.phase id with
  | fresh => exact .inl rfl
  | returned => exact .inr (.inl rfl)
  | waiting op => exact .inr (.inr rfl)
  | entering op awake settled =>
    exfalso
    simpa [step, move, hp, hl] using hs (.move id .acquire) rfl
  | leaving ret owed =>
    exfalso
    by_cases ho : owed = .silent
    · subst ho
      simpa [step, hp, hl] using hs (.respond id) rfl
    · obtain ⟨chosen, hn⟩ := can_notify (M := M) hp ho
      rw [hs (.notify id chosen) rfl] at hn
      cases hn
  | _ =>
    rw [hp] at hheld
    cases hheld

lemma tokens_atRest (hr : w.atRest) : ∑ id ∈ w.started, tokens (w.phase id) = 0 := by
  refine Finset.sum_eq_zero fun id _ => ?_
  rcases hr id with hp | hp | hp
  · rw [hp]
    rfl
  · rw [hp]
    rfl
  · revert hp
    cases w.phase id <;> simp [Phase.isWaiting, tokens]

lemma rest_state (hw : Watched M level w) (ha : Announced closed w) (hr : w.atRest)
    (hwait : w.anyWaiting) : level w.state = 0 ∧ ¬ closed w.state := by
  refine ⟨?_, fun hc => ?_⟩
  · have henough := hw.enough hwait
    rw [tokens_atRest hr] at henough
    omega
  · obtain ⟨id, ret, hp⟩ := ha hc hwait
    rcases hr id with h | h | h <;> rw [hp] at h <;> cases h

lemma weight_wake (n : ℕ) (p : Phase State Op Ret) : weight n (wake M p) ≤ weight n p + 4 := by
  cases p <;> simp [wake, weight]

lemma fuel_put {lock : Option ℕ} {p p' : Phase State Op Ret} {t : State}
    {h : Linearizability.History Op Ret} (hid : id ∈ w.started) (hp : w.phase id = p)
    (hlt : weight w.started.card p' + (if lock = none then 0 else 1) <
      weight w.started.card p + if w.lock = none then 0 else 1) :
    World.fuel { w.put id p' with state := t, lock := lock, history := h } < w.fuel := by
  have hsum := sum_put (weight w.started.card) hid p'
  rw [hp] at hsum
  simp only [World.fuel]
  change ∑ j ∈ w.started, weight w.started.card ((w.put id p').phase j) + _ < _
  omega

lemma fuel_put_same {p p' : Phase State Op Ret} {t : State}
    {h : Linearizability.History Op Ret} (hid : id ∈ w.started) (hp : w.phase id = p)
    (hlt : weight w.started.card p' < weight w.started.card p) :
    World.fuel { w.put id p' with state := t, history := h } < w.fuel :=
  @fuel_put _ _ _ _ _ w.lock _ _ _ _ hid hp (Nat.add_lt_add_right hlt _)

lemma fuel_move {m : Move} {lock : Option ℕ} {p : Phase State Op Ret} (hi : Inv M start w order)
    (hid : id ∈ w.started) (ha : Action.own (.move id m : Action Op))
    (hm : move M w.state id m w.lock (w.phase id) = some (lock, p)) :
    World.fuel { w.put id p with lock := lock } < w.fuel := by
  generalize hp : w.phase id = q at hm
  refine fuel_put hid hp ?_
  cases moved hm with
  | acquire hl => simp [weight, hl]
  | ready | unready => simp [weight]
  | wait =>
    have hl := hi.holder id (by rw [hp]; rfl)
    simp [weight, hl]
  | timeout | spurious => cases ha
  | release hl => simp [hl]

lemma fuel_wakeOne {j : ℕ} {ret : Ret} (hid : id ∈ w.started) (hjd : j ∈ w.started) (hji : j ≠ id)
    (hp : w.phase id = .leaving ret .one) :
    ((w.put id (.leaving ret .silent)).put j (wake M (w.phase j))).fuel < w.fuel := by
  have hfirst := sum_put (weight w.started.card) hid (.leaving ret .silent)
  have hsecond := @sum_put _ _ _ (w.put id (.leaving ret .silent)) j (weight w.started.card) hjd
    (wake M (w.phase j))
  rw [put_phase_ne w hji] at hsecond
  have hwake := weight_wake (M := M) w.started.card (w.phase j)
  have hcard : 0 < w.started.card := Finset.card_pos.mpr ⟨id, hid⟩
  rw [hp] at hfirst
  have howed : weight w.started.card (.leaving ret .one : Phase State Op Ret) =
    4 * w.started.card + 2 := rfl
  have hsilent : weight w.started.card (.leaving ret .silent : Phase State Op Ret) = 1 := rfl
  simp only [World.fuel]
  change ∑ k ∈ w.started, weight w.started.card (World.phase _ k) + (if w.lock = none then 0 else 1) < _
  change ∑ k ∈ w.started, weight w.started.card (World.phase _ k) + _ =
    ∑ k ∈ w.started, _ + _ at hsecond
  omega

lemma fuel_wakeAll {ret : Ret} (hid : id ∈ w.started) (hp : w.phase id = .leaving ret .all) :
    ((w.put id (.leaving ret .silent)).wakeAll M).fuel < w.fuel := by
  have hsum := sum_put (weight w.started.card) hid (.leaving ret .silent)
  rw [hp] at hsum
  have howed : weight w.started.card (.leaving ret .all : Phase State Op Ret) =
    4 * w.started.card + 2 := rfl
  have hsilent : weight w.started.card (.leaving ret .silent : Phase State Op Ret) = 1 := rfl
  have hwake : ∑ k ∈ w.started,
        weight w.started.card (wake M ((w.put id (.leaving ret .silent)).phase k)) ≤
      ∑ k ∈ w.started, weight w.started.card ((w.put id (.leaving ret .silent)).phase k) +
        w.started.card * 4 := by
    refine (Finset.sum_le_sum fun k _ => weight_wake _ _).trans ?_
    rw [Finset.sum_add_distrib, Finset.sum_const, smul_eq_mul]
  simp only [World.fuel]
  change ∑ k ∈ w.started, weight w.started.card (wake M _) + (if w.lock = none then 0 else 1) < _
  omega

lemma fuel_step {a : Action Op} (hi : Inv M start w order) (hw : Watched M level w) (ha : a.own)
    (h : step M w a = some w') : w'.fuel < w.fuel := by
  cases stepped h with
  | invoke => cases ha
  | @move id m lock p hm =>
    refine fuel_move hi (hw.started id fun hf => ?_) ha hm
    rw [hf] at hm
    cases moved hm
  | @commit id op awake seen hp =>
    refine fuel_put_same (hw.started id (hp.trans_ne (by simp))) hp ?_
    cases M.signal op <;> simp [weight]
  | @wakeOne id j ret hp hj =>
    refine fuel_wakeOne (hw.started id (hp.trans_ne (by simp)))
      (hw.started j (ne_fresh_of_waiting hj)) ?_ hp
    rintro rfl
    rw [hp] at hj
    cases hj
  | @wakeNone id ret hp hnone =>
    refine fuel_put_same (hw.started id (hp.trans_ne (by simp))) hp ?_
    simp [weight]
  | @wakeAll id ret hp => exact fuel_wakeAll (hw.started id (hp.trans_ne (by simp))) hp
  | @respond id ret hp hl =>
    refine fuel_put_same (hw.started id (hp.trans_ne (by simp))) hp ?_
    simp [weight]

lemma own_run (hc : Counted M level) {bs : List (Action Op)} (hi : Inv M start w order)
    (hw : Watched M level w) (hown : ∀ a ∈ bs, a.own) (h : exec (step M) w bs = some w') :
    bs.length + w'.fuel ≤ w.fuel := by
  refine (@exec_bounded _ _ (step M) _ _ _
    (fun w => (∃ order, Inv M start w order) ∧ Watched M level w) (fun a => a.own = true) World.fuel
    ?_ ⟨⟨order, hi⟩, hw⟩ hown h).2
  rintro v a v' ⟨⟨order, hi⟩, hw⟩ ha hstep
  exact ⟨⟨inv_step hi hstep, watched_step hc hi hw hstep⟩, fuel_step hi hw ha hstep⟩

end Rest

variable {M} {level : State → ℕ} {closed : State → Prop} {s : State} {as : List (Action Op)}
  {w : World State Op Ret}

/-- Left to themselves the calls come to rest after a bounded number of steps, and then each has
returned or waits, the latter only where it awaits something, there is nothing to take and the state
is not closed. -/
theorem settles (hc : Counted M level) (hcl : Closing M closed)
    (h : exec (step M) { state := s } as = some w) {bs : List (Action Op)}
    {w' : World State Op Ret} (hown : ∀ a ∈ bs, a.own) (hbs : exec (step M) w bs = some w') :
    bs.length ≤ w.fuel ∧ (Stuck M w' → w'.atRest ∧ ∀ id op, w'.phase id = .waiting op →
      Awaits M op ∧ level w'.state = 0 ∧ ¬ closed w'.state) := by
  obtain ⟨⟨order, hi⟩, hw, -⟩ := watched_run hc hcl h
  have hlen := own_run hc hi hw hown hbs
  obtain ⟨⟨order', hi'⟩, hw', ha'⟩ := watched_run hc hcl (exec_append.mpr ⟨w, h, hbs⟩)
  refine ⟨by omega, fun hs => ?_⟩
  have hr := atRest_of_stuck hi' hw' hs
  refine ⟨hr, fun id op hp => ?_⟩
  have hawaits := hw'.awaits id
  rw [hp] at hawaits
  exact ⟨hawaits, rest_state hw' ha' hr ⟨id, by rw [hp]; rfl⟩⟩

theorem closed_for_good (hcl : Closing M closed) (h : exec (step M) { state := s } as = some w)
    {id : ℕ} {ret : Ret} (hp : w.phase id = .leaving ret .all) {bs : List (Action Op)}
    {w' : World State Op Ret} (hbs : exec (step M) w (.notify id none :: bs) = some w') :
    closed w'.state ∧ ¬ w'.anyWaiting := by
  obtain ⟨⟨order, hi⟩, ht⟩ := told_run hcl h
  obtain ⟨v, hv, hrest⟩ := exec_cons.mp hbs
  obtain ⟨order', hi'⟩ := inv_step hi hv
  refine shut_run hcl hi' ?_ hrest
  cases stepped hv with
  | wakeNone hone =>
    rw [hp] at hone
    cases hone
  | wakeAll => exact ⟨ht id ret hp, not_anyWaiting_wakeAll M _⟩

end PointerForce.Foundations.Monitors
