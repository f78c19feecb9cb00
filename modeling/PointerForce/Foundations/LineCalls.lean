import PointerForce.Foundations.Linearizability
import PointerForce.Foundations.Lines
import PointerForce.Foundations.Runs

/-! Calls over streams: each caller writes one line on a connection of its own and reads one line back,
and a server answers the lines that it reads. Reads and writes take pieces of any size, and either
side may give up at any time. -/

namespace PointerForce.Foundations.LineCalls

open Lines Linearizability Runs

variable {State Item Env Result : Type}

/-- `serve` is none for a request that ends the server, and so is `act`, by which the state changes
besides. A caller takes what it has read for an answer if `accept` makes something of it. -/
structure Service (State Item Env Result : Type) where
  ends : Item → Bool
  last : Item
  request : ℕ → List Item
  serve : State → List Item → Option (State × List Item)
  act : State → Env → Option State
  accept : List Item → Option Result

inductive Caller (Item : Type) where
  | waiting
  | writing (rest : List Item)
  | reading (buf : List Item)
  | returned

inductive Server (Item : Type) where
  | reading (buf : List Item)
  | replying (rest buf : List Item)
  | closed

structure Connection (Item : Type) where
  caller : Caller Item := .waiting
  server : Server Item := .closed
  toServer : List Item := []
  toCaller : List Item := []

abbrev Op (Item Env : Type) := List Item ⊕ Env

structure World (State Item Env Result : Type) where
  state : State
  connections : ℕ → Connection Item := fun _ => {}
  crashed : Bool := false
  history : History (Op Item Env) (Option Result) := []

inductive CallerAction where
  | write (n : ℕ)
  | giveUp
  | read
  | stop

inductive ServerAction where
  | receive (n : ℕ)
  | hangUp
  | process
  | reply (n : ℕ)
  | replyFails

inductive Action (Env : Type) where
  | call (i : ℕ)
  | refuse (i : ℕ)
  | caller (i : ℕ) (a : CallerAction)
  | server (i : ℕ) (a : ServerAction)
  | act (i : ℕ) (e : Env)

variable (V : Service State Item Env Result)

def result (buf : List Item) : Option Result := if buf = [] then none else V.accept buf

def Caller.write : List Item → Caller Item
  | [] => .reading []
  | rest => .writing rest

def Server.reply (buf : List Item) : List Item → Server Item
  | [] => .reading buf
  | rest => .replying rest buf

def callerStep (c : Connection Item) (a : CallerAction) :
    Option (Connection Item × Option Result) :=
  match a, c.caller with
  | .write n, .writing rest =>
    if 0 < n then some ({ c with
      caller := .write (rest.drop n), toServer := c.toServer ++ rest.take n }, none)
    else none
  | .giveUp, .writing _ => some ({ c with caller := .returned }, none)
  | .read, .reading buf =>
    match c.toCaller with
    | [] => none
    | x :: toCaller =>
      if V.ends x then some ({ c with caller := .returned, toCaller }, result V buf)
      else some ({ c with caller := .reading (buf ++ [x]), toCaller }, none)
  | .stop, .reading buf => some ({ c with caller := .returned }, result V buf)
  | _, _ => none

/-- The inner option is none where the server ends: at a request that it does not survive, and at a
write to a caller that is gone. -/
def serverStep (s : State) (c : Connection Item) (a : ServerAction) :
    Option (Option (State × Connection Item)) :=
  match a, c.server with
  | .receive n, .reading buf =>
    if cut V.ends buf = none ∧ 0 < n then some (some (s, { c with
      server := .reading (buf ++ c.toServer.take n), toServer := c.toServer.drop n }))
    else none
  | .hangUp, .reading buf =>
    if cut V.ends buf = none then some (some (s, { c with server := .closed })) else none
  | .process, .reading buf =>
    match cut V.ends buf with
    | none => none
    | some (l, buf) =>
      if l.text = [] then some (some (s, { c with server := .reading buf }))
      else some ((V.serve s l.text).map fun (s, answer) =>
        (s, { c with server := .reply buf answer }))
  | .reply n, .replying rest buf =>
    match c.caller with
    | .returned => some none
    | _ =>
      if 0 < n then some (some (s, { c with
        server := .reply buf (rest.drop n), toCaller := c.toCaller ++ rest.take n }))
      else none
  | .replyFails, .replying _ buf => some (some (s, { c with server := .reading buf }))
  | _, _ => none

def World.put (w : World State Item Env Result) (i : ℕ) (c : Connection Item) :
    World State Item Env Result :=
  { w with connections := Function.update w.connections i c }

def step (w : World State Item Env Result) (a : Action Env) :
    Option (World State Item Env Result) :=
  match a with
  | .call i =>
    let c := w.connections i
    match c.caller with
    | .waiting =>
      if w.crashed then none
      else some { w.put i { c with
          caller := .writing (V.request i ++ [V.last]), server := .reading [] } with
        history := w.history ++ [.invoke i (.inl (V.request i))] }
    | _ => none
  | .refuse i =>
    let c := w.connections i
    match c.caller with
    | .waiting => some (w.put i { c with caller := .returned })
    | _ => none
  | .caller i a => (callerStep V (w.connections i) a).map fun (c, r) =>
      { w.put i c with history := w.history ++ (r.map fun r => .respond i (some r)).toList }
  | .server i a =>
    if w.crashed then none
    else (serverStep V w.state (w.connections i) a).map fun
      | none => { w with crashed := true }
      | some (state, c) => { w.put i c with state }
  | .act i e =>
    let c := w.connections i
    match c.caller with
    | .waiting =>
      if w.crashed then none
      else match V.act w.state e with
        | none => some { w with crashed := true }
        | some state => some { w.put i { c with caller := .returned } with
            state
            history := w.history ++ [.invoke i (.inr e), .respond i none] }
    | _ => none

def perform (s : State) : Op Item Env → State × Option Result
  | .inl text =>
    match V.serve s text with
    | some (s, answer) => (s, V.accept answer.dropLast)
    | none => (s, none)
  | .inr e => ((V.act s e).getD s, none)

def IsAnswer (answer : List Item) : Prop :=
  ∃ text, answer = text ++ [V.last] ∧ (∀ x ∈ text, V.ends x = false) ∧
    ∀ p, p <+: text → (V.accept p).isSome → p = text

structure Lawful : Prop where
  ends_last : V.ends V.last = true
  request_ne : ∀ i, V.request i ≠ []
  request_text : ∀ i, ∀ x ∈ V.request i, V.ends x = false
  answer : ∀ s i t answer, V.serve s (V.request i) = some (t, answer) → IsAnswer V answer

abbrev Entry (Item Env Result : Type) := Call (Op Item Env) (Option Result)

def Server.pending : Server Item → List Item
  | .replying rest _ => rest
  | .reading _ | .closed => []

structure Unserved (h : History (Op Item Env) (Option Result)) (order : List (Entry Item Env Result))
    (i : ℕ) (c : Connection Item) : Prop where
  invoked : .invoke i (.inl (V.request i)) ∈ h
  pending : ∀ r, .respond i r ∉ h
  unordered : i ∉ order.map Call.id
  toCaller : c.toCaller = []
  caller : c.caller = .returned ∨ c.caller = .reading [] ∨ ∃ rest, rest ≠ [] ∧ c.caller = .writing rest
  server : c.server = .closed ∨ ∃ buf unsent, c.server = .reading buf ∧
    buf ++ c.toServer ++ unsent = V.request i ++ [V.last] ∧
      ∀ rest, c.caller = .writing rest → rest = unsent

structure Served (order : List (Entry Item Env Result)) (i : ℕ) (c : Connection Item)
    (text : List Item) : Prop where
  entry : ⟨i, .inl (V.request i), V.accept text⟩ ∈ order
  answer : IsAnswer V (text ++ [V.last])
  toServer : c.toServer = []
  caller : c.caller = .returned ∨ ∃ buf, c.caller = .reading buf ∧ (∀ x ∈ buf, V.ends x = false) ∧
    buf ++ c.toCaller ++ c.server.pending <+: text ++ [V.last]
  server : c.server = .closed ∨ c.server = .reading [] ∨
    ∃ rest, rest ≠ [] ∧ c.server = .replying rest []

inductive ConnInv (h : History (Op Item Env) (Option Result)) (order : List (Entry Item Env Result))
    (i : ℕ) (c : Connection Item) : Prop
  | fresh (hc : c = {}) (hh : ∀ e ∈ h, e.id ≠ i) (ho : i ∉ order.map Call.id)
  | unserved (hu : Unserved V h order i c)
  | served {text : List Item} (hs : Served V order i c text)
  | finished (hc : c.caller = .returned) (hs : c.server = .closed)

structure Inv (start : State) (w : World State Item Env Result)
    (order : List (Entry Item Env Result)) : Prop where
  lin : Linearization (perform V) start w.history order w.state
  connections : ∀ i, ConnInv V w.history order i (w.connections i)

section Connections

variable {V} {h new : History (Op Item Env) (Option Result)}
  {order extra : List (Entry Item Env Result)} {i j : ℕ} {c c' : Connection Item} {s s' : State}
  {text buf : List Item}

lemma IsAnswer.unended (hv : IsAnswer V (text ++ [V.last])) : (∀ x ∈ text, V.ends x = false) ∧
    ∀ p, p <+: text → (V.accept p).isSome → p = text := by
  obtain ⟨text', he, hends, hprefix⟩ := hv
  obtain rfl := List.append_cancel_right he
  exact ⟨hends, hprefix⟩

lemma text_of_ended {x : Item} {rest : List Item} (htext : ∀ x ∈ text, V.ends x = false)
    (hx : V.ends x = true) (hp : buf ++ x :: rest <+: text ++ [V.last]) : buf = text := by
  obtain ⟨post, hpost⟩ := hp
  rcases List.append_eq_append_iff.mp ((List.append_assoc ..).symm.trans hpost) with
    ⟨mid, hmid, hrest⟩ | ⟨mid, hmid, hrest⟩
  · cases mid with
    | nil => rw [hmid, List.append_nil]
    | cons y mid =>
      rw [List.cons_append, List.cons_append, List.cons.injEq] at hrest
      have hy := htext x (by rw [hmid, hrest.1]; simp)
      rw [hx] at hy
      cases hy
  · cases mid with
    | nil => rw [hmid, List.append_nil]
    | cons y mid =>
      rw [List.cons_append, List.cons.injEq] at hrest
      simp at hrest

lemma prefix_of_unended (hends : V.ends V.last = true) (hbuf : ∀ x ∈ buf, V.ends x = false)
    (hp : buf <+: text ++ [V.last]) : buf <+: text := by
  rcases List.prefix_concat_iff.mp hp with rfl | h
  · have := hbuf V.last (by simp)
    rw [hends] at this
    cases this
  · exact h

lemma result_eq_some {r : Result} (hr : result V buf = some r) : V.accept buf = some r := by
  rw [result] at hr
  split at hr
  · cases hr
  · exact hr

lemma write_cases (rest : List Item) : Caller.write rest = .reading [] ∨
    ∃ rest', rest' ≠ [] ∧ Caller.write rest = .writing rest' := by
  cases rest with
  | nil => exact .inl rfl
  | cons x rest => exact .inr ⟨x :: rest, List.cons_ne_nil x rest, rfl⟩

lemma eq_of_write {rest rest' : List Item} (h : Caller.write rest = .writing rest') :
    rest' = rest := by
  cases rest with
  | nil => cases h
  | cons x rest => exact (Caller.writing.inj h).symm

lemma reply_pending (buf rest : List Item) : (Server.reply buf rest).pending = rest := by
  cases rest <;> rfl

lemma reply_cases (rest : List Item) : Server.reply [] rest = .reading [] ∨
    ∃ rest', rest' ≠ [] ∧ Server.reply [] rest = .replying rest' [] := by
  cases rest with
  | nil => exact .inl rfl
  | cons x rest => exact .inr ⟨x :: rest, List.cons_ne_nil x rest, rfl⟩

lemma ConnInv.frame (hc : ConnInv V h order j c) (hj : j ≠ i) (hnew : ∀ e ∈ new, e.id = i)
    (hextra : ∀ e ∈ extra, e.id = i) : ConnInv V (h ++ new) (order ++ extra) j c := by
  have hevents : ∀ e ∈ new, e.id ≠ j := fun e he => (hnew e he).trans_ne hj.symm
  have hunordered : j ∉ order.map Call.id → j ∉ (order ++ extra).map Call.id := by
    intro hn hm
    rw [List.map_append, List.mem_append] at hm
    obtain ⟨e, he, hid⟩ := List.mem_map.mp (hm.resolve_left hn)
    exact hj (hid.symm.trans (hextra e he))
  cases hc with
  | fresh hc hh ho =>
    refine .fresh hc (fun e he => ?_) (hunordered ho)
    exact (List.mem_append.mp he).elim (hh e) (hevents e)
  | unserved hu =>
    refine .unserved ⟨List.mem_append_left _ hu.invoked, fun r hr => ?_, hunordered hu.unordered,
      hu.toCaller, hu.caller, hu.server⟩
    exact (List.mem_append.mp hr).elim (hu.pending r) fun hr => hevents _ hr rfl
  | served hs =>
    exact .served ⟨List.mem_append_left _ hs.entry, hs.answer, hs.toServer, hs.caller, hs.server⟩
  | finished hc hs => exact .finished hc hs

lemma Served.caller_step (hends : V.ends V.last = true) (hs : Served V order i c text)
    {a : CallerAction} {r : Option Result} (h : callerStep V c a = some (c', r)) :
    (∀ x, r = some x → V.accept text = some x) ∧ Served V order i c' text := by
  obtain ⟨htext, hprefix⟩ := hs.answer.unended
  have hreturned : ∀ toCaller, Served V order i { c with caller := .returned, toCaller } text :=
    fun _ => ⟨hs.entry, hs.answer, hs.toServer, .inl rfl, hs.server⟩
  rcases hs.caller with hc | ⟨buf, hc, hbuf, hp⟩
  · cases a <;> simp [callerStep, hc] at h
  · cases a with
    | write n => simp [callerStep, hc] at h
    | giveUp => simp [callerStep, hc] at h
    | stop =>
      simp only [callerStep, hc, Option.some.injEq, Prod.mk.injEq] at h
      obtain ⟨rfl, rfl⟩ := h
      refine ⟨fun x hx => ?_, hreturned c.toCaller⟩
      have hx := result_eq_some hx
      have hb := prefix_of_unended hends hbuf ((List.prefix_append_of_prefix ?_).trans hp)
      · rw [← hprefix buf hb (by rw [hx]; rfl), hx]
      · exact (List.prefix_append _ _)
    | read =>
      simp only [callerStep, hc] at h
      split at h
      · cases h
      · next x toCaller hto =>
        rw [hto] at hp
        split at h
        case isTrue hx =>
          simp only [Option.some.injEq, Prod.mk.injEq] at h
          obtain ⟨rfl, rfl⟩ := h
          refine ⟨fun y hy => ?_, hreturned toCaller⟩
          rw [List.append_assoc, List.cons_append] at hp
          rw [← text_of_ended htext hx hp]
          exact result_eq_some hy
        case isFalse hx =>
          simp only [Option.some.injEq, Prod.mk.injEq] at h
          obtain ⟨rfl, rfl⟩ := h
          refine ⟨nofun, hs.entry, hs.answer, hs.toServer, .inr ⟨_, rfl, ?_, ?_⟩, hs.server⟩
          · intro y hy
            rcases List.mem_append.mp hy with hy | hy
            · exact hbuf y hy
            · obtain rfl := List.mem_singleton.mp hy
              exact Bool.eq_false_iff.mpr hx
          · simpa using hp

lemma Unserved.caller_step (hu : Unserved V h order i c) {a : CallerAction} {r : Option Result}
    (hstep : callerStep V c a = some (c', r)) : r = none ∧ Unserved V h order i c' := by
  have hreturned : ∀ c' : Connection Item, c'.caller = .returned → c'.server = c.server →
      c'.toServer = c.toServer → c'.toCaller = c.toCaller → Unserved V h order i c' := by
    intro c' h₁ h₂ h₃ h₄
    refine ⟨hu.invoked, hu.pending, hu.unordered, h₄.trans hu.toCaller, .inl h₁, ?_⟩
    rw [h₁, h₂, h₃]
    rcases hu.server with h | ⟨buf, unsent, h, hb, -⟩
    · exact .inl h
    · exact .inr ⟨buf, unsent, h, hb, nofun⟩
  rcases hu.caller with hc | hc | ⟨rest, hrest, hc⟩
  · cases a <;> simp [callerStep, hc] at hstep
  · cases a with
    | read => simp [callerStep, hc, hu.toCaller] at hstep
    | stop =>
      simp only [callerStep, hc, Option.some.injEq, Prod.mk.injEq] at hstep
      obtain ⟨rfl, rfl⟩ := hstep
      exact ⟨rfl, hreturned _ rfl rfl rfl rfl⟩
    | _ => simp [callerStep, hc] at hstep
  · cases a with
    | write n =>
      simp only [callerStep, hc] at hstep
      split at hstep
      case isFalse => cases hstep
      case isTrue hn =>
        simp only [Option.some.injEq, Prod.mk.injEq] at hstep
        obtain ⟨rfl, rfl⟩ := hstep
        refine ⟨rfl, hu.invoked, hu.pending, hu.unordered, hu.toCaller, .inr (write_cases _), ?_⟩
        rcases hu.server with hs | ⟨buf, unsent, hs, hb, hw⟩
        · exact .inl hs
        · refine .inr ⟨buf, rest.drop n, hs, ?_, fun rest' hr => ?_⟩
          · rw [← hb, ← hw rest hc, List.append_assoc buf, List.append_assoc, List.append_assoc,
              List.take_append_drop]
          · exact eq_of_write hr
    | giveUp =>
      simp only [callerStep, hc, Option.some.injEq, Prod.mk.injEq] at hstep
      obtain ⟨rfl, rfl⟩ := hstep
      exact ⟨rfl, hreturned _ rfl rfl rfl rfl⟩
    | _ => simp [callerStep, hc] at hstep

lemma Served.server_step (hs : Served V order i c text) {a : ServerAction}
    (h : serverStep V s c a = some (some (s', c'))) : s' = s ∧ Served V order i c' text := by
  have hcut : cut V.ends ([] : List Item) = none := rfl
  rcases hs.server with hc | hc | ⟨rest, hrest, hc⟩
  · cases a <;> simp [serverStep, hc] at h
  · cases a with
    | receive n =>
      simp only [serverStep, hc, hs.toServer, List.take_nil, List.drop_nil, List.append_nil] at h
      split at h
      · simp only [Option.some.injEq, Prod.mk.injEq] at h
        obtain ⟨rfl, rfl⟩ := h
        refine ⟨rfl, hs.entry, hs.answer, rfl, ?_, .inr (.inl rfl)⟩
        simpa only [hc, Server.pending] using hs.caller
      · cases h
    | hangUp =>
      simp only [serverStep, hc, hcut, if_true, Option.some.injEq, Prod.mk.injEq] at h
      obtain ⟨rfl, rfl⟩ := h
      refine ⟨rfl, hs.entry, hs.answer, hs.toServer, ?_, .inl rfl⟩
      simpa only [hc, Server.pending] using hs.caller
    | _ => simp [serverStep, hc, hcut] at h
  · cases a with
    | reply n =>
      rcases hs.caller with hr | ⟨buf, hr, hbuf, hp⟩
      · simp [serverStep, hc, hr] at h
      · simp only [serverStep, hc, hr] at h
        split at h
        case isFalse => cases h
        case isTrue hn =>
          simp only [Option.some.injEq, Prod.mk.injEq] at h
          obtain ⟨rfl, rfl⟩ := h
          refine ⟨rfl, hs.entry, hs.answer, hs.toServer, .inr ⟨buf, rfl, hbuf, ?_⟩, .inr (reply_cases _)⟩
          rw [hc] at hp
          rw [reply_pending, List.append_assoc, List.append_assoc, List.take_append_drop,
            ← List.append_assoc]
          exact hp
    | replyFails =>
      simp only [serverStep, hc, Option.some.injEq, Prod.mk.injEq] at h
      obtain ⟨rfl, rfl⟩ := h
      refine ⟨rfl, hs.entry, hs.answer, hs.toServer, ?_, .inr (.inl rfl)⟩
      refine hs.caller.imp_right fun ⟨buf, hr, hbuf, hp⟩ => ⟨buf, hr, hbuf, ?_⟩
      rw [Server.pending, List.append_nil]
      exact (List.prefix_append _ _).trans hp
    | _ => simp [serverStep, hc] at h

lemma Unserved.cut_request (hl : Lawful V) (hu : Unserved V h order i c) {buf rest : List Item}
    {l : Line Item} (hc : c.server = .reading buf) (hcut : cut V.ends buf = some (l, rest)) :
    l.text = V.request i ∧ rest = [] ∧ c.toServer = [] ∧
      (c.caller = .returned ∨ c.caller = .reading []) := by
  rcases hu.server with hs | ⟨buf', unsent, hs, hb, hw⟩
  · rw [hc] at hs
    cases hs
  · obtain rfl := Server.reading.inj (hc.symm.trans hs)
    have hrequest := cut_line (hl.request_text i) hl.ends_last []
    have hlong := cut_append hcut (c.toServer ++ unsent)
    rw [← List.append_assoc, hb, hrequest, Option.some.injEq, Prod.mk.injEq] at hlong
    obtain ⟨rfl, hrest⟩ := hlong
    obtain ⟨rfl, hunread⟩ := List.append_eq_nil_iff.mp hrest.symm
    obtain ⟨hto, rfl⟩ := List.append_eq_nil_iff.mp hunread
    refine ⟨rfl, rfl, hto, ?_⟩
    rcases hu.caller with h | h | ⟨rest, hne, h⟩
    · exact .inl h
    · exact .inr h
    · exact absurd (hw rest h) hne

lemma Unserved.server_step (hl : Lawful V) (hu : Unserved V h order i c) {a : ServerAction}
    (hstep : serverStep V s c a = some (some (s', c'))) :
    (s' = s ∧ Unserved V h order i c') ∨ ∃ text, V.serve s (V.request i) = some (s', text ++ [V.last]) ∧
      Served V (order ++ [⟨i, .inl (V.request i), V.accept text⟩]) i c' text := by
  rcases hu.server with hc | ⟨buf, unsent, hc, hb, hw⟩
  · cases a <;> simp [serverStep, hc] at hstep
  · cases a with
    | receive n =>
      simp only [serverStep, hc] at hstep
      split at hstep
      case isFalse => cases hstep
      case isTrue =>
        simp only [Option.some.injEq, Prod.mk.injEq] at hstep
        obtain ⟨rfl, rfl⟩ := hstep
        refine .inl ⟨rfl, hu.invoked, hu.pending, hu.unordered, hu.toCaller, hu.caller,
          .inr ⟨_, unsent, rfl, ?_, hw⟩⟩
        rw [List.append_assoc buf, List.take_append_drop, hb]
    | hangUp =>
      simp only [serverStep, hc] at hstep
      split at hstep
      case isFalse => cases hstep
      case isTrue =>
        simp only [Option.some.injEq, Prod.mk.injEq] at hstep
        obtain ⟨rfl, rfl⟩ := hstep
        exact .inl ⟨rfl, hu.invoked, hu.pending, hu.unordered, hu.toCaller, hu.caller, .inl rfl⟩
    | process =>
      simp only [serverStep, hc] at hstep
      split at hstep
      · cases hstep
      · next l rest hcut =>
        obtain ⟨htext, rfl, hto, hcaller⟩ := hu.cut_request hl hc hcut
        rw [htext, if_neg (hl.request_ne i), Option.some.injEq] at hstep
        obtain ⟨⟨t, answer⟩, hserve, he⟩ := Option.map_eq_some_iff.mp hstep
        obtain ⟨rfl, rfl⟩ := Prod.mk.inj he
        have hanswer := hl.answer s i t answer hserve
        obtain ⟨text, rfl, htext, hprefix⟩ := id hanswer
        refine .inr ⟨text, hserve, List.mem_append_right _ List.mem_cons_self, hanswer, hto, ?_,
          .inr (reply_cases _)⟩
        refine hcaller.imp_right fun h => ⟨[], h, nofun, ?_⟩
        rw [reply_pending, hu.toCaller]
        exact List.prefix_rfl
    | _ => simp [serverStep, hc] at hstep

end Connections

section Runs

variable {V} {start : State} {w w' : World State Item Env Result}
  {order : List (Entry Item Env Result)} {i : ℕ}

lemma Inv.put (hi : Inv V start w order) (new : History (Op Item Env) (Option Result))
    (extra : List (Entry Item Env Result)) {c : Connection Item} {state : State}
    (hlin : Linearization (perform V) start (w.history ++ new) (order ++ extra) state)
    (hc : ConnInv V (w.history ++ new) (order ++ extra) i c) (hnew : ∀ e ∈ new, e.id = i)
    (hextra : ∀ e ∈ extra, e.id = i) :
    Inv V start { w.put i c with state, history := w.history ++ new } (order ++ extra) where
  lin := hlin
  connections j := by
    change ConnInv V (w.history ++ new) (order ++ extra) j (Function.update w.connections i c j)
    rw [Function.update_apply]
    split
    case isTrue he => rwa [he]
    case isFalse hj => exact (hi.connections j).frame hj hnew hextra

lemma Inv.caller (hl : Lawful V) (hi : Inv V start w order) {c : Connection Item} {a : CallerAction}
    {r : Option Result} (h : callerStep V (w.connections i) a = some (c, r)) :
    Inv V start { w.put i c with
      history := w.history ++ (r.map fun r => .respond i (some r)).toList } order := by
  have hnew : ∀ e ∈ (r.map fun r => (.respond i (some r) : Event (Op Item Env) (Option Result))).toList,
      e.id = i := by
    cases r <;> simp [Event.id]
  suffices hs : Linearization (perform V) start
        (w.history ++ (r.map fun r => .respond i (some r)).toList) order w.state ∧
      ConnInv V (w.history ++ (r.map fun r => .respond i (some r)).toList) order i c by
    have hput := hi.put _ [] (by simpa using hs.1) (by simpa using hs.2) hnew nofun
    rw [List.append_nil] at hput
    exact hput
  cases hi.connections i with
  | fresh hc => cases a <;> simp [callerStep, hc] at h
  | finished hc => cases a <;> simp [callerStep, hc] at h
  | unserved hu =>
    obtain ⟨rfl, hu'⟩ := hu.caller_step h
    simpa using ⟨hi.lin, ConnInv.unserved hu'⟩
  | served hs =>
    obtain ⟨hr, hs'⟩ := hs.caller_step hl.ends_last h
    refine ⟨?_, .served hs'⟩
    cases r with
    | none => simpa using hi.lin
    | some x =>
      have hresponse := hi.lin.respond hs.entry
      rwa [hr x rfl] at hresponse

lemma Inv.server (hl : Lawful V) (hi : Inv V start w order) {c : Connection Item} {a : ServerAction}
    {state : State} (h : serverStep V w.state (w.connections i) a = some (some (state, c))) :
    ∃ order, Inv V start { w.put i c with state } order := by
  have hsame : state = w.state → ConnInv V w.history order i c →
      ∃ order, Inv V start { w.put i c with state } order := by
    rintro rfl hc
    have hput := hi.put [] [] (by simpa using hi.lin) (by simpa using hc) nofun nofun
    rw [List.append_nil, List.append_nil] at hput
    exact ⟨order, hput⟩
  cases hi.connections i with
  | fresh hc => cases a <;> simp [serverStep, hc] at h
  | finished hc hs => cases a <;> simp [serverStep, hs] at h
  | served hs =>
    obtain ⟨rfl, hs'⟩ := hs.server_step h
    exact hsame rfl (.served hs')
  | unserved hu =>
    rcases hu.server_step hl h with ⟨rfl, hu'⟩ | ⟨text, hserve, hs'⟩
    · exact hsame rfl (.unserved hu')
    · have hperform : perform V w.state (.inl (V.request i)) = (state, V.accept text) := by
        simp only [perform, hserve, List.dropLast_concat]
      have hlin := hi.lin.snoc (c := ⟨i, .inl (V.request i), V.accept text⟩) hu.unordered hu.invoked
        hu.pending hperform
      have hput := hi.put [] _ (by simpa using hlin) (.served hs') nofun (by simp)
      rw [List.append_nil] at hput
      exact ⟨_, hput⟩

lemma Inv.waiting (hi : Inv V start w order) (h : (w.connections i).caller = .waiting) :
    w.connections i = {} ∧ (∀ e ∈ w.history, e.id ≠ i) ∧ i ∉ order.map Call.id := by
  cases hi.connections i with
  | fresh hc hh ho => exact ⟨hc, hh, ho⟩
  | finished hc => rw [hc] at h; cases h
  | unserved hu =>
    rcases hu.caller with hc | hc | ⟨rest, -, hc⟩ <;> (rw [hc] at h; cases h)
  | served hs =>
    rcases hs.caller with hc | ⟨buf, hc, -⟩ <;> (rw [hc] at h; cases h)

lemma Inv.call (hi : Inv V start w order) (h : (w.connections i).caller = .waiting) :
    Inv V start { w.put i { w.connections i with
        caller := .writing (V.request i ++ [V.last]), server := .reading [] } with
      history := w.history ++ [.invoke i (.inl (V.request i))] } order := by
  obtain ⟨hc, hh, ho⟩ := hi.waiting h
  have hu : Unserved V (w.history ++ [.invoke i (.inl (V.request i))]) order i { w.connections i with
      caller := .writing (V.request i ++ [V.last]), server := .reading [] } := by
    rw [hc]
    refine ⟨List.mem_append_right _ List.mem_cons_self, fun r hr => ?_, ho, rfl,
      .inr (.inr ⟨_, by simp, rfl⟩), .inr ⟨[], _, rfl, rfl, fun rest hr => ?_⟩⟩
    · rcases List.mem_append.mp hr with hr | hr
      · exact hh _ hr rfl
      · simp at hr
    · exact (Caller.writing.inj hr).symm
  have hlin := hi.lin.invoke (.inl (V.request i)) ho
  have hput := hi.put _ [] (by simpa using hlin) (by simpa using ConnInv.unserved hu)
    (by simp [Event.id]) nofun
  rw [List.append_nil] at hput
  exact hput

lemma Inv.refuse (hi : Inv V start w order) (h : (w.connections i).caller = .waiting) :
    Inv V start (w.put i { w.connections i with caller := .returned }) order := by
  obtain ⟨hc, -, -⟩ := hi.waiting h
  have hput := hi.put (i := i) [] [] (by simpa using hi.lin)
    (.finished (c := { w.connections i with caller := .returned }) rfl (by rw [hc])) nofun nofun
  rw [List.append_nil, List.append_nil] at hput
  exact hput

lemma Inv.act (hi : Inv V start w order) (h : (w.connections i).caller = .waiting) {e : Env}
    {state : State} (ha : V.act w.state e = some state) :
    ∃ order, Inv V start { w.put i { w.connections i with caller := .returned } with
      state
      history := w.history ++ [.invoke i (.inr e), .respond i none] } order := by
  obtain ⟨hc, hh, ho⟩ := hi.waiting h
  have hinvoked := hi.lin.invoke (.inr e) ho
  have hperform : perform V w.state (.inr e) = (state, none) := by simp [perform, ha]
  have hpending : ∀ r, .respond i r ∉ w.history ++ [.invoke i (.inr e)] := by
    intro r hr
    rcases List.mem_append.mp hr with hr | hr
    · exact hh _ hr rfl
    · simp at hr
  have hlin := (hinvoked.snoc (c := ⟨i, .inr e, none⟩) ho
    (List.mem_append_right _ List.mem_cons_self) hpending hperform).respond
      (c := ⟨i, .inr e, none⟩) (List.mem_append_right _ List.mem_cons_self)
  rw [List.append_assoc] at hlin
  refine ⟨_, hi.put _ _ hlin (.finished rfl (by rw [hc])) ?_ (by simp)⟩
  simp [Event.id]

lemma Inv.step (hl : Lawful V) {a : Action Env} (hi : Inv V start w order)
    (h : step V w a = some w') : ∃ order, Inv V start w' order := by
  have hcrashed : Inv V start { w with crashed := true } order := ⟨hi.lin, hi.connections⟩
  cases a with
  | call i =>
    simp only [LineCalls.step] at h
    split at h
    · next hw =>
      split at h
      · cases h
      · obtain rfl := Option.some.inj h
        exact ⟨order, hi.call hw⟩
    · cases h
  | refuse i =>
    simp only [LineCalls.step] at h
    split at h
    · next hw =>
      obtain rfl := Option.some.inj h
      exact ⟨order, hi.refuse hw⟩
    · cases h
  | caller i a =>
    obtain ⟨⟨c, r⟩, hc, rfl⟩ := Option.map_eq_some_iff.mp h
    exact ⟨order, hi.caller hl hc⟩
  | server i a =>
    simp only [LineCalls.step] at h
    split at h
    · cases h
    · obtain ⟨o, ho, rfl⟩ := Option.map_eq_some_iff.mp h
      cases o with
      | none => exact ⟨order, hcrashed⟩
      | some p => exact hi.server hl ho
  | act i e =>
    simp only [LineCalls.step] at h
    split at h
    · next hw =>
      split at h
      · cases h
      · split at h
        · obtain rfl := Option.some.inj h
          exact ⟨order, hcrashed⟩
        · next ha =>
          obtain rfl := Option.some.inj h
          exact hi.act hw ha
    · cases h

end Runs

variable {V} {start : State} {w w' : World State Item Env Result}

def Requested (V : Service State Item Env Result) (h : History (Op Item Env) (Option Result)) : Prop :=
  ∀ i text, .invoke i (.inl text) ∈ h → text = V.request i

lemma Requested.step {a : Action Env} (hr : Requested V w.history) (h : step V w a = some w') :
    Requested V w'.history := by
  have hkeep : ∀ new : History (Op Item Env) (Option Result),
      (∀ i text, .invoke i (.inl text) ∈ new → text = V.request i) →
      Requested V (w.history ++ new) := by
    intro new hnew i text hm
    exact (List.mem_append.mp hm).elim (hr i text) (hnew i text)
  cases a with
  | call i =>
    simp only [LineCalls.step] at h
    split at h
    · split at h
      · cases h
      · obtain rfl := Option.some.inj h
        exact hkeep _ (by simp +contextual)
    · cases h
  | refuse i =>
    simp only [LineCalls.step] at h
    split at h
    · obtain rfl := Option.some.inj h
      exact hr
    · cases h
  | caller i a =>
    obtain ⟨⟨c, r⟩, -, rfl⟩ := Option.map_eq_some_iff.mp h
    exact hkeep _ (by cases r <;> simp)
  | server i a =>
    simp only [LineCalls.step] at h
    split at h
    · cases h
    · obtain ⟨o, -, rfl⟩ := Option.map_eq_some_iff.mp h
      cases o <;> exact hr
  | act i e =>
    simp only [LineCalls.step] at h
    split at h
    · split at h
      · cases h
      · split at h
        · obtain rfl := Option.some.inj h
          exact hr
        · obtain rfl := Option.some.inj h
          exact hkeep _ (by simp)
    · cases h

lemma requested (V : Service State Item Env Result) {as : List (Action Env)}
    (hrun : exec (step V) { state := start } as = some w) : Requested V w.history :=
  @exec_invariant _ _ (step V) _ _ _ (fun w => Requested V w.history) (fun _ _ _ hr h => hr.step h)
    (fun _ _ hm => absurd hm List.not_mem_nil) hrun

/-- The calls that have returned an answer, and some of the others, took effect once each, in an
order in which every caller got the answer to its own request. -/
theorem calls_linearizable (hl : Lawful V) {as : List (Action Env)}
    (hrun : exec (step V) { state := start } as = some w) :
    Linearizable (perform V) start w.history w.state := by
  have hstart : ∃ order, Inv V start { state := start } order :=
    ⟨[], Linearization.nil _ start, fun _ => .fresh rfl nofun nofun⟩
  obtain ⟨order, hi⟩ := @exec_invariant _ _ (step V) _ _ _ (fun w => ∃ order, Inv V start w order)
    (fun _ _ _ ⟨_, hi⟩ h => hi.step hl h) hstart hrun
  exact ⟨order, hi.lin⟩

end PointerForce.Foundations.LineCalls
