import PointerForce.Client.OneShot
import PointerForce.Foundations.LineCalls

/-! The one-shot clients of the control socket, `pfctl` and the `ControlClient::send` of the bridge,
and the daemon that answers them, down to the bytes of their reads and writes. -/

namespace PointerForce.Client.ControlCalls

open Foundations Foundations.Faults Foundations.Linearizability Foundations.LineCalls Foundations.Runs
  Daemon Daemon.ControlServer Daemon.ClientSafety Daemon.Mapper
open OneShot (bindRequest unbindRequest bindText unbindText unbindKeyText okText notFoundText invalidText lineTable
  lineCodec lineCodec_replies)

/-- What such a client writes. The handlers of all commands but these call one method of the mapper,
which counts as one step: `code_table`, which has no lock of its own, has been filled before. -/
structure Request (C : Codec) where
  payload : Json
  text : Bytes
  written : C.fastWriter payload = text ++ [newline]
  oneLine : newline ∉ text
  read : C.reader text = some payload
  nonempty : text ≠ []
  onTable : cmdOf payload ∉ [some "status", some "devices", some "events", some "reload"]

variable (C : Codec) (K : KeyCodes)

def session (table : Table) : Session := { table }

def serve (table : Table) (line : Bytes) : Option (Table × Bytes) :=
  match (handleLine C K line).run (session table) with
  | .ok () s => some (s.table, s.sent.flatMap C.fastWriter)
  | .error _ _ => none

def service (request : ℕ → Request C) : Service Table UInt8 Config Json where
  ends := isNewline
  last := newline
  request i := (request i).text
  serve := serve C K
  act table config := some (Mapper.init table config)
  accept := C.reader

def atomic (table : Table) : Op UInt8 Config → Table × Option Json
  | .inl line =>
    match (handleLine C K line).run (session table) with
    | .ok () s => (s.table, s.sent.head?)
    | .error _ _ => (table, none)
  | .inr config => (Mapper.init table config, none)

def Reply (request : ℕ → Request C) (v : Json) : Prop :=
  ∃ i table s, (handleLine C K (request i).text).run (session table) = .ok () s ∧ v ∈ s.sent

def Legible (v : Json) : Prop :=
  ∃ text, C.fastWriter v = text ++ [newline] ∧ newline ∉ text ∧ C.reader text = some v ∧
    ∀ p, p <+: text → (C.reader p).isSome → p = text

section Calls

variable {C K} {request : ℕ → Request C} {table table' : Table} {answer : Bytes} {i : ℕ}

lemma asksEvents_eq_false (r : Request C) : RequestFraming.asksEvents C r.text = false := by
  have hcmd := r.onTable
  rw [RequestFraming.asksEvents, r.read, Option.bind_some]
  grind

lemma serve_cases (h : serve C K table (request i).text = some (table', answer)) :
    ∃ s v, (handleLine C K (request i).text).run (session table) = .ok () s ∧ s.sent = [v] ∧
      table' = s.table ∧ answer = C.fastWriter v ∧ Reply C K request v := by
  rw [serve] at h
  split at h
  · next s hrun =>
    obtain ⟨rfl, rfl⟩ := Prod.mk.inj (Option.some.inj h)
    have hraise : ¬ Raises (handleLine C K (request i).text) (session table) := by
      rintro ⟨e, u, he⟩
      rw [hrun] at he
      cases he
    obtain ⟨u, v, hu, hsent, -, -⟩ := RequestFraming.handleLine_answered (request i).nonempty
      (asksEvents_eq_false (request i)) hraise
    obtain ⟨-, rfl⟩ := EStateM.Result.ok.inj (hrun.symm.trans hu)
    have hsent : s.sent = [v] := hsent
    refine ⟨s, v, hrun, hsent, rfl, by rw [hsent]; simp, i, table, s, hrun, ?_⟩
    rw [hsent]
    exact List.mem_cons_self
  · cases h

lemma lawful (hreply : ∀ v, Reply C K request v → Legible C v) : Lawful (service C K request) where
  ends_last := beq_self_eq_true newline
  request_ne i := (request i).nonempty
  request_text i x hx := beq_false_of_ne fun he => (request i).oneLine (he ▸ hx)
  answer table i table' answer h := by
    obtain ⟨-, v, -, -, -, rfl, hv⟩ := serve_cases h
    obtain ⟨text, hw, hline, -, hprefix⟩ := hreply v hv
    exact ⟨text, hw, fun x hx => beq_false_of_ne fun he => hline (he ▸ hx), hprefix⟩

lemma perform_eq_atomic (hreply : ∀ v, Reply C K request v → Legible C v) (i : ℕ) (table : Table) :
    perform (service C K request) table (.inl (request i).text) =
      atomic C K table (.inl (request i).text) := by
  cases h : serve C K table (request i).text with
  | none =>
    have hs : (service C K request).serve table (request i).text = none := h
    rw [serve] at h
    split at h
    · cases h
    · next e s hrun => simp only [perform, hs, atomic, hrun]
  | some p =>
    obtain ⟨table', answer⟩ := p
    obtain ⟨s, v, hrun, hsent, rfl, rfl, hv⟩ := serve_cases h
    obtain ⟨text, hw, -, hread, -⟩ := hreply v hv
    have hs : (service C K request).serve table (request i).text = some (s.table, C.fastWriter v) := h
    have haccept : (service C K request).accept (C.fastWriter v).dropLast = some v := by
      rw [hw, List.dropLast_concat]
      exact hread
    simp only [perform, hs, atomic, hrun, hsent, haccept, List.head?_cons]

end Calls

theorem control_calls_linearizable (request : ℕ → Request C) (start : Table)
    (hreply : ∀ v, Reply C K request v → Legible C v) {as : List (Action Config)}
    {w : World Table UInt8 Config Json}
    (hrun : exec (step (service C K request)) { state := start } as = some w) :
    Linearizable (atomic C K) start w.history w.state := by
  obtain ⟨order, hlin⟩ := calls_linearizable (lawful hreply) hrun
  refine ⟨order, hlin.congr fun i op hop table => ?_⟩
  cases op with
  | inl text =>
    obtain rfl : text = (request i).text := requested _ hrun i text hop
    exact perform_eq_atomic hreply i table
  | inr config => rfl

def bindCall : Request lineCodec where
  payload := bindRequest "G502" "BTN_SIDE" "xdotool key F5"
  text := bindText
  written := by decide
  oneLine := by decide
  read := rfl
  nonempty := by decide
  onTable := by decide

def unbindCall : Request lineCodec where
  payload := unbindRequest "G502" "BTN_SIDE"
  text := unbindText
  written := by decide
  oneLine := by decide
  read := rfl
  nonempty := by decide
  onTable := by decide

def bindThenUnbind : ℕ → Request lineCodec
  | 0 => bindCall
  | _ => unbindCall

lemma read_prefix {text : Bytes}
    (h : (text.inits.all fun p => (lineCodec.reader p).isNone || p == text) = true) (p : Bytes)
    (hp : p <+: text) (hr : (lineCodec.reader p).isSome) : p = text := by
  have hall := List.all_eq_true.mp h p ((List.mem_inits p text).mpr hp)
  rw [Bool.or_eq_true, beq_iff_eq, Option.isNone_iff_eq_none] at hall
  refine hall.resolve_left fun hnone => ?_
  rw [hnone] at hr
  cases hr

lemma legible_lines : ∀ v ∈ lineTable.map Prod.snd, Legible lineCodec v := by
  simp only [lineTable, List.map_cons, List.map_nil, List.forall_mem_cons]
  exact ⟨⟨bindText, by decide, by decide, rfl, read_prefix (by decide)⟩,
    ⟨unbindText, by decide, by decide, rfl, read_prefix (by decide)⟩,
    ⟨unbindKeyText, by decide, by decide, rfl, read_prefix (by decide)⟩,
    ⟨okText, by decide, by decide, rfl, read_prefix (by decide)⟩,
    ⟨notFoundText, by decide, by decide, rfl, read_prefix (by decide)⟩,
    ⟨invalidText, by decide, by decide, rfl, read_prefix (by decide)⟩, by simp⟩

lemma legible_reply (v : Json) (h : Reply lineCodec inputEventCodes bindThenUnbind v) :
    Legible lineCodec v := by
  obtain ⟨i, table, s, hrun, hv⟩ := h
  apply legible_lines
  rcases lineCodec_replies ⟨_, _, _, hrun, rfl, hv⟩ with rfl | rfl | rfl <;> simp [lineTable]

def crossedCalls : List (Action Config) :=
  [.call 0, .call 1, .caller 0 (.write 5), .server 0 (.receive 3), .caller 0 (.write 100),
    .caller 1 (.write 100), .server 0 (.receive 2048), .server 1 (.receive 2048), .server 0 .process,
    .server 1 .process, .server 0 (.reply 4), .caller 0 .read, .server 1 (.reply 100),
    .caller 0 .stop] ++ List.replicate 12 (.caller 1 .read)

theorem crossed_calls_linearizable : ∃ w,
    exec (step (service lineCodec inputEventCodes bindThenUnbind)) { state := ∅ } crossedCalls = some w ∧
      Linearizable (atomic lineCodec inputEventCodes) ∅ w.history w.state := by
  have hsome : (exec (step (service lineCodec inputEventCodes bindThenUnbind)) { state := ∅ }
      crossedCalls).isSome := by decide +kernel
  obtain ⟨w, hrun⟩ := Option.isSome_iff_exists.mp hsome
  exact ⟨w, hrun, control_calls_linearizable lineCodec inputEventCodes bindThenUnbind ∅
    legible_reply hrun⟩

end PointerForce.Client.ControlCalls
