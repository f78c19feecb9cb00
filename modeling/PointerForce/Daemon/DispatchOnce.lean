import PointerForce.Daemon.EventLoop

/-! Every event is dispatched exactly once and in the order of the pushes, whatever the readers, the
control clients and the signals do in between. -/

namespace PointerForce.Daemon.DispatchOnce

open Foundations Foundations.Runs ConfigLoader Mapper EventLoop

def poppedEvent : Dispatch → Option InputEvent
  | .popped ev => some ev
  | _ => none

def popped (trace : List Dispatch) : List InputEvent := trace.filterMap poppedEvent

/-- What a step of a reader pushes; the devices are those of the start. -/
def pushedBy (entries : ℕ → Option Entry) : Action → Option InputEvent
  | .deviceEvent reader raw now => (entries reader).bind fun e =>
    if raw.type = evKey then
      some { deviceId := e.id, devicePath := e.path, code := raw.code, value := raw.value,
             timestamp := now }
    else none
  | _ => none

def handling (s : State) : Action → List (InputEvent × Table)
  | .mux =>
    match s.mux with
    | .handle ev => [(ev, s.table)]
    | _ => []
  | _ => []

def executions (cmd : String) : List Dispatch := if cmd = "" then [] else [.executed cmd]

def block : InputEvent × Table → List Dispatch
  | (ev, table) =>
    if ev.value = 1 then
      [.popped ev, .lookedUp ev table,
        .notified ev ((lookup table ev.deviceId ev.code).getD "")] ++
          executions ((lookup table ev.deviceId ev.code).getD "")
    else [.popped ev, .notified ev ""]

-- the part of the last block that is still to come
def toDo : Mux → List Dispatch
  | .notify ev cmd => .notified ev cmd :: executions cmd
  | .execute _ cmd => [.executed cmd]
  | _ => []

def begun : Mux → List Dispatch
  | .handle ev => [.popped ev]
  | _ => []

def Between : Mux → Prop
  | .handle _ | .notify _ _ | .execute _ _ => False
  | _ => True

def SameDevices (entries entries' : ℕ → Option Entry) : Prop :=
  ∀ reader, (entries' reader).map (fun e => (e.id, e.path)) =
    (entries reader).map fun e => (e.id, e.path)

structure Inv (entries : ℕ → Option Entry) (as : List Action)
    (handled : List (InputEvent × Table)) (s : State) : Prop where
  order : popped s.trace ++ s.queue = as.filterMap (pushedBy entries)
  blocks : s.trace ++ toDo s.mux = handled.flatMap block ++ begun s.mux
  devices : SameDevices entries s.entries

section Steps

variable {C : Codec} {K : KeyCodes} {s t : State} {entries : ℕ → Option Entry} {as : List Action}
  {handled : List (InputEvent × Table)} {a : Action}

lemma popped_append (as bs : List Dispatch) : popped (as ++ bs) = popped as ++ popped bs :=
  List.filterMap_append

lemma popped_singleton (a : Dispatch) : popped [a] = (poppedEvent a).toList := by
  cases a <;> rfl

lemma pushedBy_deliver {reader now : ℕ} {raw : RawEvent} {e : Entry}
    (hs : SameDevices entries s.entries) (he : s.entries reader = some e) :
    (deliver s e raw now).queue = s.queue ++
      (pushedBy entries (.deviceEvent reader raw now)).toList := by
  have hdev := hs reader
  rw [he, Option.map_some] at hdev
  obtain ⟨e', he', hsame⟩ := Option.map_eq_some_iff.mp hdev.symm
  obtain ⟨hid, hpath⟩ := Prod.mk.inj hsame
  rw [deliver, pushedBy, he', Option.bind_some]
  by_cases ht : raw.type = evKey
  · rw [if_neg (not_not.mpr ht), if_pos ht, hid, hpath]
    rfl
  · rw [if_pos ht, if_neg ht]
    exact (List.append_nil _).symm

lemma sameDevices_disconnect (hs : SameDevices entries s.entries) (reader : ℕ) :
    SameDevices entries (Function.update s.entries reader
      ((s.entries reader).map fun e => { e with active := false })) := by
  intro r
  rw [← hs r]
  by_cases hr : r = reader
  · subst hr
    rw [Function.update_self, Option.map_map]
    rfl
  · rw [Function.update_of_ne hr]

lemma quiet {m : Mux} (h : Between m) : toDo m = [] ∧ begun m = [] := by
  cases m <;> first | exact ⟨rfl, rfl⟩ | exact h.elim

lemma handling_of_between (h : Between s.mux) : handling s .mux = [] := by
  rw [handling]
  cases hm : s.mux
  case handle ev =>
    rw [hm] at h
    exact h.elim
  all_goals rfl

lemma block_released {ev : InputEvent} (hv : ev.value ≠ keyPress) (table : Table) :
    block (ev, table) = [.popped ev, .notified ev ""] := if_neg hv

lemma block_pressed {ev : InputEvent} (hv : ev.value = keyPress) (table : Table) :
    block (ev, table) = [.popped ev, .lookedUp ev table, .notified ev (commandIn table ev)] ++
      executions (commandIn table ev) := if_pos hv

lemma inv_between (hi : Inv entries as handled s) (hb : Between s.mux) (hb' : Between t.mux)
    (hq : t.queue = s.queue) (ht : t.trace = s.trace) (he : t.entries = s.entries) :
    Inv entries (as ++ [.mux]) (handled ++ handling s .mux) t := by
  obtain ⟨htodo, hbegun⟩ := quiet hb
  obtain ⟨htodo', hbegun'⟩ := quiet hb'
  have hblocks := hi.blocks
  rw [htodo, hbegun] at hblocks
  rw [handling_of_between hb, List.append_nil]
  refine ⟨?_, ?_, he ▸ hi.devices⟩
  · rw [ht, hq, hi.order, List.filterMap_append]
    exact (List.append_nil _).symm
  · rw [ht, htodo', hbegun', hblocks]

lemma inv_dispatch (hi : Inv entries as handled s) {m : Mux} {more : List Dispatch}
    (hm : popped more = [])
    (hblocks : s.trace ++ more ++ toDo m =
      (handled ++ handling s .mux).flatMap block ++ begun m) :
    Inv entries (as ++ [.mux]) (handled ++ handling s .mux)
      { s with mux := m, trace := s.trace ++ more } := by
  refine ⟨?_, hblocks, hi.devices⟩
  rw [popped_append, hm, List.append_nil, hi.order, List.filterMap_append]
  exact (List.append_nil _).symm

lemma inv_pop (hi : Inv entries as handled s) (hm : s.mux = .pop) {ev : InputEvent}
    {queue : List InputEvent} (hq : s.queue = ev :: queue) :
    Inv entries (as ++ [.mux]) (handled ++ handling s .mux)
      { s with mux := .handle ev, queue, trace := s.trace ++ [.popped ev] } := by
  have hb : Between s.mux := hm ▸ trivial
  obtain ⟨htodo, hbegun⟩ := quiet hb
  have hblocks := hi.blocks
  rw [htodo, hbegun, List.append_nil, List.append_nil] at hblocks
  rw [handling_of_between hb, List.append_nil]
  refine ⟨?_, ?_, hi.devices⟩
  · rw [List.filterMap_append, ← hi.order, hq, popped_append, popped_singleton]
    simp [poppedEvent, pushedBy]
  · simp only [toDo, begun, List.append_nil, hblocks]

lemma inv_released (hi : Inv entries as handled s) {ev : InputEvent} (hm : s.mux = .handle ev)
    (hv : ev.value ≠ keyPress) :
    Inv entries (as ++ [.mux]) (handled ++ handling s .mux) { s with mux := .notify ev "" } := by
  have hblocks := hi.blocks
  have hdispatch : Inv entries (as ++ [.mux]) (handled ++ handling s .mux)
      { s with mux := .notify ev "", trace := s.trace ++ [] } := inv_dispatch hi rfl ?_
  · rwa [List.append_nil] at hdispatch
  · simp only [hm, toDo, begun, List.append_nil] at hblocks
    rw [List.append_nil, hblocks, handling, hm, List.flatMap_append, List.flatMap_singleton,
      block_released hv]
    simp [toDo, begun, executions]

lemma inv_pressed (hi : Inv entries as handled s) {ev : InputEvent} (hm : s.mux = .handle ev)
    (hv : ev.value = keyPress) :
    Inv entries (as ++ [.mux]) (handled ++ handling s .mux) { s with
      mux := .notify ev (commandIn s.table ev), trace := s.trace ++ [.lookedUp ev s.table] } := by
  refine inv_dispatch hi rfl ?_
  have hblocks := hi.blocks
  simp only [hm, toDo, begun, List.append_nil] at hblocks
  rw [hblocks, handling, hm, List.flatMap_append, List.flatMap_singleton, block_pressed hv]
  simp [toDo, begun]

lemma inv_notified (hi : Inv entries as handled s) {ev : InputEvent} {cmd : String}
    (hm : s.mux = .notify ev cmd) :
    Inv entries (as ++ [.mux]) (handled ++ handling s .mux) { s with
      mux := if cmd = "" then .head else .execute ev cmd,
      trace := s.trace ++ [.notified ev cmd] } := by
  refine inv_dispatch hi rfl ?_
  have hblocks := hi.blocks
  simp only [hm, toDo, begun, List.append_nil] at hblocks
  rw [handling, hm, List.append_nil, ← hblocks]
  by_cases hc : cmd = ""
  · simp [executions, hc, toDo, begun]
  · simp [executions, hc, toDo, begun]

lemma inv_executed (hi : Inv entries as handled s) {ev : InputEvent} {cmd : String}
    (hm : s.mux = .execute ev cmd) :
    Inv entries (as ++ [.mux]) (handled ++ handling s .mux)
      { s with mux := .head, trace := s.trace ++ [.executed cmd] } := by
  refine inv_dispatch hi rfl ?_
  have hblocks := hi.blocks
  simp only [hm, toDo, begun, List.append_nil] at hblocks
  rw [handling, hm, List.append_nil, ← hblocks]
  rfl

lemma inv_muxStep (hi : Inv entries as handled s) (h : muxStep C K s = some t) :
    Inv entries (as ++ [.mux]) (handled ++ handling s .mux) t := by
  rw [muxStep] at h
  cases hm : s.mux <;> simp only [hm, Option.some.injEq, reduceCtorEq] at h
  case head =>
    subst h
    refine inv_between hi (by rw [hm]; trivial) ?_ rfl rfl rfl
    dsimp only
    split <;> trivial
  case testReload =>
    subst h
    refine inv_between hi (by rw [hm]; trivial) ?_ rfl rfl rfl
    dsimp only
    split <;> trivial
  case load =>
    subst h
    have hb : Between s.mux := hm ▸ trivial
    rcases runLoad_cases (C := C) (K := K) (s := s) _ with ⟨ok, config, he⟩ | ⟨config, he⟩
    · rw [he]
      exact inv_between hi hb (by cases ok <;> trivial) rfl rfl rfl
    · rw [he]
      exact inv_between hi hb hb rfl rfl rfl
  case init =>
    subst h
    exact inv_between hi (by rw [hm]; trivial) trivial rfl rfl rfl
  case pop =>
    split at h <;> obtain rfl := Option.some.inj h
    · exact inv_between hi (by rw [hm]; trivial) trivial rfl rfl rfl
    · next hq => exact inv_pop hi hm hq
  case handle ev =>
    split at h <;> obtain rfl := Option.some.inj h
    · next hv => exact inv_released hi hm hv
    · next hv => exact inv_pressed hi hm (not_not.mp hv)
  case notify ev cmd =>
    subst h
    exact inv_notified hi hm
  case execute ev cmd =>
    subst h
    exact inv_executed hi hm

lemma inv_beside (hi : Inv entries as handled s) (ha : handling s a = []) (hm : t.mux = s.mux)
    (ht : t.trace = s.trace) (hq : t.queue = s.queue ++ (pushedBy entries a).toList)
    (he : SameDevices entries t.entries) :
    Inv entries (as ++ [a]) (handled ++ handling s a) t := by
  rw [ha, List.append_nil]
  refine ⟨?_, ?_, he⟩
  · rw [ht, hq, ← List.append_assoc, hi.order, List.filterMap_append]
    cases hp : pushedBy entries a <;> simp [hp]
  · rw [ht, hm, hi.blocks]

lemma inv_clientLoad (hi : Inv entries as handled s) :
    Inv entries (as ++ [.clientLoad]) (handled ++ handling s .clientLoad)
      (runLoad C K s fun ok s =>
        { s with clientInits := if ok then s.clientInits + 1 else s.clientInits }) := by
  rcases runLoad_cases (C := C) (K := K) (s := s) _ with ⟨ok, config, he⟩ | ⟨config, he⟩
  · rw [he]
    exact inv_beside hi rfl rfl rfl (List.append_nil _).symm hi.devices
  · rw [he]
    exact inv_beside hi rfl rfl rfl (List.append_nil _).symm hi.devices

lemma inv_step (hi : Inv entries as handled s) (h : step C K s a = some t) :
    Inv entries (as ++ [a]) (handled ++ handling s a) t := by
  rw [step.eq_def] at h
  split at h
  case isTrue => cases h
  case isFalse hc =>
  cases a <;> simp only [Option.some.injEq] at h
  case deviceEvent reader raw now =>
    split at h
    · next e he =>
      obtain ⟨-, h⟩ := Option.ite_none_right_eq_some.mp h
      obtain rfl := Option.some.inj h
      have hsame : (deliver s e raw now).mux = s.mux ∧ (deliver s e raw now).trace = s.trace ∧
          (deliver s e raw now).entries = s.entries := by
        rw [deliver]
        split <;> exact ⟨rfl, rfl, rfl⟩
      obtain ⟨hm, ht, hentries⟩ := hsame
      exact inv_beside hi rfl hm ht (pushedBy_deliver hi.devices he) (hentries ▸ hi.devices)
    · cases h
  case disconnect reader =>
    subst h
    exact inv_beside hi rfl rfl rfl (List.append_nil _).symm (sameDevices_disconnect hi.devices reader)
  case mux => exact inv_muxStep hi h
  case clientLoad =>
    subst h
    exact inv_clientLoad hi
  case clientInit =>
    obtain ⟨-, h⟩ := Option.ite_none_right_eq_some.mp h
    obtain rfl := Option.some.inj h
    exact inv_beside hi rfl rfl rfl (List.append_nil _).symm hi.devices
  all_goals
    subst h
    exact inv_beside hi rfl rfl rfl (List.append_nil _).symm hi.devices

def Finishes (C : Codec) (K : KeyCodes) (s : State) : Prop :=
  ∃ n t, exec (step C K) s (List.replicate n .mux) = some t ∧ Between t.mux

lemma finishes_of_between (h : Between s.mux) : Finishes C K s := ⟨0, s, rfl, h⟩

lemma finishes_of_muxStep (hc : s.crashed = false) (hs : muxStep C K s = some t)
    (h : Finishes C K t) : Finishes C K s := by
  obtain ⟨n, u, hu, hb⟩ := h
  have hstep : step C K s .mux = some t := by simpa [step, hc] using hs
  exact ⟨n + 1, u, exec_cons.mpr ⟨t, hstep, hu⟩, hb⟩

lemma finishes_execute (hc : s.crashed = false) {ev : InputEvent} {cmd : String}
    (hm : s.mux = .execute ev cmd) : Finishes C K s := by
  refine finishes_of_muxStep hc (by rw [muxStep, hm]) ?_
  exact finishes_of_between trivial

lemma finishes_notify (hc : s.crashed = false) {ev : InputEvent} {cmd : String}
    (hm : s.mux = .notify ev cmd) : Finishes C K s := by
  refine finishes_of_muxStep hc (by rw [muxStep, hm]) ?_
  by_cases he : cmd = ""
  · exact finishes_of_between (by simp [he, Between])
  · exact finishes_execute hc (if_neg he)

lemma finishes_handle (hc : s.crashed = false) {ev : InputEvent} (hm : s.mux = .handle ev) :
    Finishes C K s := by
  by_cases hv : ev.value = keyPress
  · refine finishes_of_muxStep hc (by rw [muxStep, hm]; exact if_neg (not_not.mpr hv)) ?_
    exact finishes_notify hc rfl
  · refine finishes_of_muxStep hc (by rw [muxStep, hm]; exact if_pos hv) ?_
    exact finishes_notify hc rfl

lemma finishes (hc : s.crashed = false) : Finishes C K s := by
  cases hm : s.mux
  case handle ev => exact finishes_handle hc hm
  case notify ev cmd => exact finishes_notify hc hm
  case execute ev cmd => exact finishes_execute hc hm
  all_goals exact finishes_of_between (by rw [hm]; trivial)

end Steps

/-- What the readers have pushed has been popped or waits. The trace is one block for each handled
event, with the command that the table gave then; the last block may lack its end, which the next
steps of the multiplexer bring. -/
theorem dispatched_once (C : Codec) (K : KeyCodes) (config : Config) (table : Table)
    (files : String → Option Bytes) (entries : ℕ → Option Entry) (as : List Action) (t : State)
    (hrun : exec (step C K) { config, table, files, entries } as = some t) :
    popped t.trace ++ t.queue = as.filterMap (pushedBy entries) ∧
      t.trace ++ toDo t.mux =
        (observed (step C K) handling { config, table, files, entries } as).flatMap block ++
          begun t.mux ∧
      (t.crashed = false →
        ∃ n u, exec (step C K) t (List.replicate n .mux) = some u ∧ Between u.mux) := by
  have hstart : Inv entries [] [] { config, table, files, entries } := ⟨rfl, rfl, fun _ => rfl⟩
  let start : State := { config, table, files, entries }
  have hi : Inv entries as (observed (step C K) handling start as) t := by
    refine @exec_history _ _ (step C K) start t as
      (fun as t => Inv entries as (observed (step C K) handling start as) t) ?_ hstart hrun
    intro as u a v hu hi hv
    rw [observed_concat hu]
    exact inv_step hi hv
  exact ⟨hi.order, hi.blocks, finishes⟩

def padEntries : ℕ → Option Entry
  | 0 => some { id := "macro_pad", path := "/dev/input/event3" }
  | _ => none

def padTable : Table := (∅ : Table).insert "macro_pad" ((∅ : Bindings).insert 30 "firefox")

def padPress (now : ℕ) : InputEvent := ⟨"macro_pad", "/dev/input/event3", 30, 1, now⟩

def padState : State :=
  { config := {}, table := padTable, files := fun _ => none, entries := padEntries }

def pressedTwice : List Action :=
  [.deviceEvent 0 ⟨1, 30, 1⟩ 7, .mux, .hangup, .mux, .mux, .mux, .mux, .unbind "macro_pad" "KEY_A",
    .deviceEvent 0 ⟨1, 30, 1⟩ 9, .mux, .mux]

lemma padTable_command : (lookup padTable "macro_pad" 30).getD "" = "firefox" := by decide

lemma block_padPress : block (padPress 7, padTable) = [.popped (padPress 7),
    .lookedUp (padPress 7) padTable, .notified (padPress 7) "firefox", .executed "firefox"] := by
  simp only [block, padPress, padTable_command]
  rfl

theorem press_is_dispatched : ∃ t, exec (step (.ofTable []) inputEventCodes) padState pressedTwice =
      some t ∧
    t.trace = [.popped (padPress 7), .lookedUp (padPress 7) padTable,
      .notified (padPress 7) "firefox", .executed "firefox"] ∧
    t.queue = [padPress 9] := by
  obtain ⟨t, ht⟩ : ∃ t, exec (step (.ofTable []) inputEventCodes) padState pressedTwice = some t :=
    ⟨_, rfl⟩
  obtain ⟨horder, htrace, -⟩ :=
    dispatched_once (.ofTable []) inputEventCodes {} padTable (fun _ => none) padEntries _ t ht
  have hmux : t.mux = .head := exec_all (p := fun t => t.mux = .head) (by decide) ht
  have hhandled : observed (step (.ofTable []) inputEventCodes) handling padState pressedTwice =
      [(padPress 7, padTable)] := rfl
  have hpushed : pressedTwice.filterMap (pushedBy padEntries) = [padPress 7, padPress 9] := rfl
  change t.trace ++ toDo t.mux =
    (observed _ handling padState pressedTwice).flatMap block ++ begun t.mux at htrace
  rw [hmux, hhandled, List.flatMap_singleton, block_padPress] at htrace
  simp only [toDo, begun, List.append_nil] at htrace
  refine ⟨t, ht, htrace, ?_⟩
  rw [htrace, hpushed] at horder
  exact (List.cons.inj horder).2

end PointerForce.Daemon.DispatchOnce
