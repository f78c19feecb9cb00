import PointerForce.Foundations.Linearizability
import PointerForce.Foundations.Runs

/-! Monitors: a shared state, a lock, and a condition variable on which a call waits until the state is
ready for it. A call reads the state, and writes it back in a later step. -/

namespace PointerForce.Foundations.Monitors

open Linearizability Runs

variable {State Op Ret : Type}

inductive Signal where
  | silent
  | one
  | all
  deriving DecidableEq

/-- `signal` is what the call sends after its operation. After it was woken a call tests the state
again if `rechecks` holds of its operation, and else does the operation in any case. -/
structure Monitor (State Op Ret : Type) where
  ready : State → Op → Bool
  act : State → Op → State × Ret
  signal : Op → Signal
  rechecks : Op → Bool

/-- `awake`: the call has been in the wait set. `settled`: it does not test the state any more. -/
inductive Phase (State Op Ret : Type) where
  | fresh
  | entering (op : Op) (awake settled : Bool)
  | inside (op : Op) (awake settled : Bool)
  | parking (op : Op)
  | waiting (op : Op)
  | working (op : Op) (awake : Bool) (seen : State)
  | leaving (ret : Ret) (owed : Signal)
  | returned

structure World (State Op Ret : Type) where
  state : State
  lock : Option ℕ := none
  phase : ℕ → Phase State Op Ret := fun _ => .fresh
  started : Finset ℕ := ∅
  history : History Op Ret := []

inductive Move where
  | acquire
  | test
  | wait
  | timeout
  | spurious
  | release

inductive Action (Op : Type) where
  | invoke (id : ℕ) (op : Op)
  | move (id : ℕ) (m : Move)
  | commit (id : ℕ)
  | notify (id : ℕ) (chosen : Option ℕ)
  | respond (id : ℕ)

variable (M : Monitor State Op Ret)

def move (s : State) (id : ℕ) (m : Move) (lock : Option ℕ) (p : Phase State Op Ret) :
    Option (Option ℕ × Phase State Op Ret) :=
  match m, p with
  | .acquire, .entering op awake settled =>
    if lock = none then some (some id, .inside op awake settled) else none
  | .test, .inside op awake settled =>
    some (lock, if settled || M.ready s op then .working op awake s else .parking op)
  | .wait, .parking op => some (none, .waiting op)
  | .timeout, .waiting op => some (lock, .entering op true true)
  | .spurious, .waiting op => some (lock, .entering op true (!M.rechecks op))
  | .release, .leaving ret owed => if lock = some id then some (none, .leaving ret owed) else none
  | _, _ => none

def Phase.isWaiting : Phase State Op Ret → Bool
  | .waiting _ => true
  | _ => false

def wake : Phase State Op Ret → Phase State Op Ret
  | .waiting op => .entering op true (!M.rechecks op)
  | p => p

def World.put (w : World State Op Ret) (id : ℕ) (p : Phase State Op Ret) : World State Op Ret :=
  { w with phase := Function.update w.phase id p }

def World.wakeAll (w : World State Op Ret) : World State Op Ret :=
  { w with phase := fun j => wake M (w.phase j) }

/-- A call may send its signal before or after it releases the lock. -/
def step (w : World State Op Ret) (a : Action Op) : Option (World State Op Ret) :=
  match a with
  | .invoke id op =>
    match w.phase id with
    | .fresh => some { w.put id (.entering op false false) with
        started := insert id w.started
        history := w.history ++ [.invoke id op] }
    | _ => none
  | .move id m => (move M w.state id m w.lock (w.phase id)).map fun (lock, p) =>
      { w.put id p with lock }
  | .commit id =>
    match w.phase id with
    | .working op _ seen => some { w.put id (.leaving (M.act seen op).2 (M.signal op)) with
        state := (M.act seen op).1 }
    | _ => none
  | .notify id chosen =>
    match w.phase id, chosen with
    | .leaving ret .one, some j =>
      if (w.phase j).isWaiting then
        some ((w.put id (.leaving ret .silent)).put j (wake M (w.phase j)))
      else none
    | .leaving ret .one, none =>
      if ∀ j ∈ w.started, (w.phase j).isWaiting = false then some (w.put id (.leaving ret .silent))
      else none
    | .leaving ret .all, none => some ((w.put id (.leaving ret .silent)).wakeAll M)
    | _, _ => none
  | .respond id =>
    match w.phase id with
    | .leaving ret .silent =>
      if w.lock = some id then none
      else some { w.put id .returned with history := w.history ++ [.respond id ret] }
    | _ => none

inductive Moved (s : State) (id : ℕ) (lock : Option ℕ) :
    Move → Phase State Op Ret → Option ℕ → Phase State Op Ret → Prop
  | acquire {op : Op} {awake settled : Bool} (hl : lock = none) :
      Moved s id lock .acquire (.entering op awake settled) (some id) (.inside op awake settled)
  | ready {op : Op} {awake settled : Bool} :
      Moved s id lock .test (.inside op awake settled) lock (.working op awake s)
  | unready {op : Op} {awake settled : Bool} (hr : M.ready s op = false) :
      Moved s id lock .test (.inside op awake settled) lock (.parking op)
  | wait {op : Op} : Moved s id lock .wait (.parking op) none (.waiting op)
  | timeout {op : Op} : Moved s id lock .timeout (.waiting op) lock (.entering op true true)
  | spurious {op : Op} :
      Moved s id lock .spurious (.waiting op) lock (.entering op true (!M.rechecks op))
  | release {ret : Ret} {owed : Signal} (hl : lock = some id) :
      Moved s id lock .release (.leaving ret owed) none (.leaving ret owed)

inductive Stepped (w : World State Op Ret) : Action Op → World State Op Ret → Prop
  | invoke {id : ℕ} {op : Op} (hp : w.phase id = .fresh) :
      Stepped w (.invoke id op) { w.put id (.entering op false false) with
        started := insert id w.started
        history := w.history ++ [.invoke id op] }
  | move {id : ℕ} {m : Move} {lock : Option ℕ} {p : Phase State Op Ret}
      (hm : move M w.state id m w.lock (w.phase id) = some (lock, p)) :
      Stepped w (.move id m) { w.put id p with lock }
  | commit {id : ℕ} {op : Op} {awake : Bool} {seen : State}
      (hp : w.phase id = .working op awake seen) :
      Stepped w (.commit id) { w.put id (.leaving (M.act seen op).2 (M.signal op)) with
        state := (M.act seen op).1 }
  | wakeOne {id j : ℕ} {ret : Ret} (hp : w.phase id = .leaving ret .one)
      (hj : (w.phase j).isWaiting) : Stepped w (.notify id (some j))
        ((w.put id (.leaving ret .silent)).put j (wake M (w.phase j)))
  | wakeNone {id : ℕ} {ret : Ret} (hp : w.phase id = .leaving ret .one)
      (hnone : ∀ j ∈ w.started, (w.phase j).isWaiting = false) :
      Stepped w (.notify id none) (w.put id (.leaving ret .silent))
  | wakeAll {id : ℕ} {ret : Ret} (hp : w.phase id = .leaving ret .all) :
      Stepped w (.notify id none)
        ((w.put id (.leaving ret .silent)).wakeAll M)
  | respond {id : ℕ} {ret : Ret} (hp : w.phase id = .leaving ret .silent) (hl : w.lock ≠ some id) :
      Stepped w (.respond id)
        { w.put id .returned with history := w.history ++ [.respond id ret] }

def Phase.op? : Phase State Op Ret → Option Op
  | .entering op _ _ | .inside op _ _ | .parking op | .waiting op | .working op _ _ => some op
  | .fresh | .leaving _ _ | .returned => none

def Phase.holds : Phase State Op Ret → Bool
  | .inside _ _ _ | .parking _ | .working _ _ _ => true
  | _ => false

inductive CallInv (h : History Op Ret) (order : List (Call Op Ret)) (id : ℕ) :
    Phase State Op Ret → Prop
  | fresh (hh : ∀ e ∈ h, e.id ≠ id) (ho : id ∉ order.map Call.id) : CallInv h order id .fresh
  | pending {p : Phase State Op Ret} {op : Op} (hp : p.op? = some op) (hi : .invoke id op ∈ h)
      (hr : ∀ ret, .respond id ret ∉ h) (ho : id ∉ order.map Call.id) : CallInv h order id p
  | leaving {ret : Ret} {owed : Signal} (op : Op) (hc : ⟨id, op, ret⟩ ∈ order) :
      CallInv h order id (.leaving ret owed)
  | returned : CallInv h order id .returned

def Knows (s : State) : Phase State Op Ret → Prop
  | .working _ _ seen => seen = s
  | .parking op => M.ready s op = false
  | _ => True

def HasLock (lock : Option ℕ) (id : ℕ) (p : Phase State Op Ret) : Prop := p.holds → lock = some id

structure Inv (start : State) (w : World State Op Ret) (order : List (Call Op Ret)) : Prop where
  lin : Linearization M.act start w.history order w.state
  calls : ∀ id, CallInv w.history order id (w.phase id)
  holder : ∀ id, HasLock w.lock id (w.phase id)
  knows : ∀ id, Knows M w.state (w.phase id)

section Steps

variable {M} {s : State} {id j : ℕ} {m : Move} {lock lock' : Option ℕ} {p p' : Phase State Op Ret}
  {h : History Op Ret} {order : List (Call Op Ret)} {w w' : World State Op Ret}
  {start : State}

lemma moved (hm : move M s id m lock p = some (lock', p')) : Moved M s id lock m p lock' p' := by
  rw [move.eq_def] at hm
  split at hm
  case h_1 =>
    obtain ⟨hl, hm⟩ := Option.ite_none_right_eq_some.mp hm
    cases hm
    exact .acquire hl
  case h_2 =>
    cases hm
    split
    · exact .ready
    · next hr => exact .unready (Bool.or_eq_false_iff.mp (Bool.not_eq_true _ ▸ hr)).2
  case h_3 =>
    cases hm
    exact .wait
  case h_4 =>
    cases hm
    exact .timeout
  case h_5 =>
    cases hm
    exact .spurious
  case h_6 =>
    obtain ⟨hl, hm⟩ := Option.ite_none_right_eq_some.mp hm
    cases hm
    exact .release hl
  case h_7 => cases hm

lemma move_op? (hm : move M s id m lock p = some (lock', p')) :
    (∃ op, p.op? = some op ∧ p'.op? = some op) ∨ p' = p ∧ ∃ ret owed, p = .leaving ret owed := by
  cases moved hm with
  | @release ret owed hl => exact .inr ⟨rfl, ret, owed, rfl⟩
  | _ => exact .inl ⟨_, rfl, rfl⟩

lemma move_lock (hm : move M s id m lock p = some (lock', p')) (hp : HasLock lock id p) :
    HasLock lock' id p' ∧ (lock' = lock ∨ lock = none ∨ lock = some id) := by
  cases moved hm with
  | acquire hl => exact ⟨fun _ => rfl, .inr (.inl hl)⟩
  | ready | unready hr => exact ⟨fun _ => hp rfl, .inl rfl⟩
  | wait => exact ⟨fun h => (Bool.false_ne_true h).elim, .inr (.inr (hp rfl))⟩
  | timeout | spurious => exact ⟨fun h => (Bool.false_ne_true h).elim, .inl rfl⟩
  | release hl => exact ⟨fun h => (Bool.false_ne_true h).elim, .inr (.inr hl)⟩

lemma move_knows (hm : move M s id m lock p = some (lock', p')) : Knows M s p' := by
  cases moved hm with
  | ready => exact rfl
  | unready hr => exact hr
  | _ => trivial

lemma wake_op? (p : Phase State Op Ret) : (wake M p).op? = p.op? := by
  cases p <;> rfl

lemma wake_holds (p : Phase State Op Ret) : (wake M p).holds = p.holds := by
  cases p <;> rfl

lemma knows_wake (hk : Knows M s p) : Knows M s (wake M p) := by
  cases p <;> exact hk

lemma CallInv.move (hc : CallInv h order id p) (hm : Monitors.move M s id m lock p = some (lock', p')) :
    CallInv h order id p' := by
  rcases move_op? hm with ⟨op, hp, hp'⟩ | ⟨rfl, -⟩
  · cases hc with
    | fresh => cases hp
    | pending hop hi hr ho => exact .pending (hp'.trans (hp.symm.trans hop)) hi hr ho
    | leaving => cases hp
    | returned => cases hp
  · exact hc

lemma CallInv.wake (hc : CallInv h order id p) : CallInv h order id (wake M p) := by
  cases hc with
  | fresh hh ho => exact .fresh hh ho
  | pending hop hi hr ho => exact .pending ((wake_op? p).trans hop) hi hr ho
  | leaving op hc => exact .leaving op hc
  | returned => exact .returned

lemma CallInv.happened (hc : CallInv h order j p) {e : Event Op Ret} (he : e.id ≠ j) :
    CallInv (h ++ [e]) order j p := by
  cases hc with
  | fresh hh ho =>
    refine .fresh (fun e' he' => ?_) ho
    exact (List.mem_append.mp he').elim (hh e') fun hm => List.mem_singleton.mp hm ▸ he
  | pending hop hi hr ho =>
    refine .pending hop (List.mem_append_left _ hi) (fun ret hret => ?_) ho
    rcases List.mem_append.mp hret with hret | hret
    · exact hr ret hret
    · exact he ((congrArg Event.id (List.mem_singleton.mp hret)).symm)
  | leaving op hc => exact .leaving op hc
  | returned => exact .returned

lemma CallInv.ordered (hc : CallInv h order j p) {c : Call Op Ret} (hne : c.id ≠ j) :
    CallInv h (order ++ [c]) j p := by
  have hunordered : j ∉ order.map Call.id → j ∉ (order ++ [c]).map Call.id := by
    intro hn hm
    rw [List.map_append, List.mem_append] at hm
    exact hne (List.mem_singleton.mp (hm.resolve_left hn)).symm
  cases hc with
  | fresh hh ho => exact .fresh hh (hunordered ho)
  | pending hop hi hr ho => exact .pending hop hi hr (hunordered ho)
  | leaving op hc => exact .leaving op (List.mem_append_left _ hc)
  | returned => exact .returned

lemma put_phase_self (w : World State Op Ret) (id : ℕ) (p : Phase State Op Ret) :
    (w.put id p).phase id = p := Function.update_self ..

lemma put_phase_ne (w : World State Op Ret) {id j : ℕ} (hj : j ≠ id) (p : Phase State Op Ret) :
    (w.put id p).phase j = w.phase j := Function.update_of_ne hj ..

lemma forall_put {P : ℕ → Phase State Op Ret → Prop} (hid : P id p)
    (hw : ∀ j, j ≠ id → P j (w.phase j)) (j : ℕ) : P j ((w.put id p).phase j) := by
  by_cases hj : j = id
  · subst hj
    rwa [put_phase_self]
  · rw [put_phase_ne w hj]
    exact hw j hj

lemma inv_invoke {op : Op} (hi : Inv M start w order) (hp : w.phase id = .fresh) :
    Inv M start { w.put id (.entering op false false) with
      started := insert id w.started
      history := w.history ++ [.invoke id op] } order := by
  have hc := hi.calls id
  rw [hp] at hc
  cases hc with
  | pending hop => cases hop
  | fresh hh ho =>
    refine ⟨hi.lin.invoke op ho, forall_put ?_ fun j hj => ?_,
      forall_put (fun h => (Bool.false_ne_true h).elim) fun j _ => hi.holder j,
      forall_put trivial fun j _ => hi.knows j⟩
    · refine .pending rfl (by simp) (fun ret hret => ?_) ho
      rcases List.mem_append.mp hret with hret | hret
      · exact hh _ hret rfl
      · simp at hret
    · exact (hi.calls j).happened hj.symm

lemma inv_move (hi : Inv M start w order) (hm : move M w.state id m w.lock (w.phase id) =
    some (lock', p')) : Inv M start { w.put id p' with lock := lock' } order := by
  obtain ⟨hholds, hlock⟩ := move_lock hm (hi.holder id)
  refine ⟨hi.lin, forall_put ((hi.calls id).move hm) fun j _ => hi.calls j,
    forall_put hholds fun j hj hh => ?_, forall_put (move_knows hm) fun j _ => hi.knows j⟩
  have hjl := hi.holder j hh
  rcases hlock with he | he | he
  · exact he.trans hjl
  · rw [hjl] at he
    cases he
  · rw [hjl] at he
    exact absurd (Option.some.inj he) hj

lemma Inv.seen_eq {op : Op} {awake : Bool} {seen : State} (hi : Inv M start w order)
    (hp : w.phase id = .working op awake seen) : seen = w.state := by
  have hk := hi.knows id
  rw [hp] at hk
  exact hk

lemma inv_commit {op : Op} {awake : Bool} {seen : State} (hi : Inv M start w order)
    (hp : w.phase id = .working op awake seen) :
    ∃ order', Inv M start { w.put id (.leaving (M.act seen op).2 (M.signal op)) with
      state := (M.act seen op).1 } order' := by
  have hc := hi.calls id
  have hl := hi.holder id
  obtain rfl := hi.seen_eq hp
  rw [hp] at hc hl
  cases hc with
  | pending hop hinv hr ho =>
    obtain rfl := Option.some.inj hop
    refine ⟨order ++ [⟨id, op, (M.act w.state op).2⟩], ?_, forall_put ?_ fun j hj => ?_,
      forall_put (fun h => (Bool.false_ne_true h).elim) fun j _ => hi.holder j,
      forall_put trivial fun j hj => ?_⟩
    · exact hi.lin.snoc ho hinv hr rfl
    · exact .leaving op (by simp)
    · exact (hi.calls j).ordered hj.symm
    · have hj' : (w.phase j).holds = false := by
        by_contra hh
        have := (hi.holder j (by simpa using hh)).symm.trans (hl rfl)
        exact hj (Option.some.inj this)
      revert hj'
      cases w.phase j <;> simp [Knows, Phase.holds]

lemma inv_silenced {ret : Ret} {owed : Signal} (hi : Inv M start w order)
    (hp : w.phase id = .leaving ret owed) : Inv M start (w.put id (.leaving ret .silent)) order := by
  have hc := hi.calls id
  rw [hp] at hc
  cases hc with
  | pending hop => cases hop
  | leaving op hc =>
    exact ⟨hi.lin, forall_put (.leaving op hc) fun j _ => hi.calls j,
      forall_put (fun h => (Bool.false_ne_true h).elim) fun j _ => hi.holder j,
      forall_put trivial fun j _ => hi.knows j⟩

lemma inv_woken {f : ℕ → Phase State Op Ret} (hi : Inv M start w order)
    (hf : ∀ j, f j = w.phase j ∨ f j = wake M (w.phase j)) :
    Inv M start { w with phase := f } order := by
  refine ⟨hi.lin, fun j => ?_, fun j => ?_, fun j => ?_⟩ <;>
    rcases hf j with he | he <;> simp only [he]
  · exact hi.calls j
  · exact (hi.calls j).wake
  · exact hi.holder j
  · rw [HasLock, wake_holds]
    exact hi.holder j
  · exact hi.knows j
  · exact knows_wake (hi.knows j)

lemma inv_respond {ret : Ret} (hi : Inv M start w order) (hp : w.phase id = .leaving ret .silent) :
    Inv M start { w.put id .returned with history := w.history ++ [.respond id ret] } order := by
  have hc := hi.calls id
  rw [hp] at hc
  cases hc with
  | pending hop => cases hop
  | leaving op hc =>
    refine ⟨hi.lin.respond hc, forall_put .returned fun j hj => ?_,
      forall_put (fun h => (Bool.false_ne_true h).elim) fun j _ => hi.holder j,
      forall_put trivial fun j _ => hi.knows j⟩
    exact (hi.calls j).happened hj.symm

lemma stepped {a : Action Op} (h : step M w a = some w') : Stepped M w a w' := by
  cases a with
  | invoke id op =>
    simp only [step] at h
    split at h
    · next hp =>
      cases h
      exact .invoke hp
    · cases h
  | move id m =>
    obtain ⟨⟨lock, p⟩, hm, rfl⟩ := Option.map_eq_some_iff.mp h
    exact .move hm
  | commit id =>
    simp only [step] at h
    split at h
    · next hp =>
      cases h
      exact .commit hp
    · cases h
  | notify id chosen =>
    simp only [step] at h
    split at h
    · next hp =>
      obtain ⟨hj, h⟩ := Option.ite_none_right_eq_some.mp h
      cases h
      exact .wakeOne hp hj
    · next hp =>
      obtain ⟨hnone, h⟩ := Option.ite_none_right_eq_some.mp h
      cases h
      exact .wakeNone hp hnone
    · next hp =>
      cases h
      exact .wakeAll hp
    · cases h
  | respond id =>
    simp only [step] at h
    split at h
    · next hp =>
      split at h
      · cases h
      · next hl =>
        cases h
        exact .respond hp hl
    · cases h

lemma inv_step {a : Action Op} (hi : Inv M start w order) (h : step M w a = some w') :
    ∃ order', Inv M start w' order' := by
  cases stepped h with
  | invoke hp => exact ⟨order, inv_invoke hi hp⟩
  | move hm => exact ⟨order, inv_move hi hm⟩
  | commit hp => exact inv_commit hi hp
  | @wakeOne id j ret hp hj =>
    refine ⟨order, inv_woken (inv_silenced hi hp) fun k => ?_⟩
    by_cases hk : k = j
    · subst hk
      have hne : k ≠ id := by
        rintro rfl
        rw [hp] at hj
        cases hj
      right
      rw [put_phase_ne w hne]
      exact Function.update_self ..
    · exact .inl (Function.update_of_ne hk ..)
  | wakeNone hp => exact ⟨order, inv_silenced hi hp⟩
  | wakeAll hp => exact ⟨order, inv_woken (inv_silenced hi hp) fun k => .inr rfl⟩
  | respond hp => exact ⟨order, inv_respond hi hp⟩

lemma inv_start (M : Monitor State Op Ret) (s : State) : Inv M s { state := s } [] :=
  ⟨.nil M.act s, fun _ => .fresh (by simp) (by simp), fun _ h => (Bool.false_ne_true h).elim,
    fun _ => trivial⟩

lemma inv_run {as : List (Action Op)} (h : exec (step M) { state := start } as = some w) :
    ∃ order, Inv M start w order :=
  @exec_invariant _ _ (step M) _ _ _ (fun w => ∃ order, Inv M start w order)
    (fun _ _ _ ⟨_, hi⟩ hstep => inv_step hi hstep) ⟨[], inv_start M start⟩ h

end Steps

variable {M} {s : State} {as : List (Action Op)} {w : World State Op Ret}

theorem linearizable (h : exec (step M) { state := s } as = some w) :
    Linearizable M.act s w.history w.state := by
  obtain ⟨order, hi⟩ := inv_run h
  exact ⟨order, hi.lin⟩

end PointerForce.Foundations.Monitors
