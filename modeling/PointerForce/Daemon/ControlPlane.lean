import PointerForce.Daemon.ConfigMeaning
import PointerForce.Daemon.FailedReload
import PointerForce.Daemon.Restart
import PointerForce.Foundations.Linearizability
import PointerForce.Foundations.Runs

/-! The operations of the control plane next to one another. Each call of the mapper is atomic, but a
reload reads the file, writes the global configuration and initialises the mapper from it in three
steps between which the others can act. -/

namespace PointerForce.Daemon.ControlPlane

open Foundations Foundations.Faults Foundations.Linearizability Foundations.Runs ConfigLoader Mapper
  Restart

inductive Request where
  | bind (deviceId keyName cmd : String)
  | unbind (deviceId keyName : String)
  | bindings (filter : String)
  | reload
  | edit (file : Option Bytes)

inductive Reply where
  | ok (ok : Bool)
  | listed (entries : List BindingEntry)
  | edited
  deriving DecidableEq, Repr

structure Store where
  file : Option Bytes
  table : Table

inductive Phase where
  | idle
  | invoked (req : Request)
  | parsed (root : Json) (uses : ℕ)
  | loaded (root : Json) (uses : ℕ)
  | done (reply : Reply)
  | responded

structure State where
  file : Option Bytes := none
  config : Config := {}
  table : Table := ∅
  /-- The number of calls of the mapper so far. -/
  uses : ℕ := 0
  phase : ℕ → Phase := fun _ => .idle
  crashed : Bool := false
  history : History Request Reply := []

inductive Action where
  | invoke (id : ℕ) (req : Request)
  | mapper (id : ℕ)
  | read (id : ℕ)
  | install (id : ℕ)
  | init (id : ℕ)
  | respond (id : ℕ)
  | edit (id : ℕ) (file : Option Bytes)

variable (C : Codec) (K : KeyCodes)

def install (path : String) (root : Json) : Loader Bool := do
  modify fun g => { g with devices := [], configPath := path }
  loadOptions root
  let some devices ← root.arrayMember "devices" | return false
  forM devices (loadDevice K)
  return true

lemma load_eq_install {path : String} {file : Option Bytes} {root : Json}
    (h : file.bind C.reader = some root) : load C K path file = install K path root :=
  load_parsed h

def mapperCall (table : Table) : Request → Option (Table × Reply)
  | .bind deviceId keyName cmd => some ((addBinding K table deviceId keyName cmd).map id .ok)
  | .unbind deviceId keyName => some ((removeBinding K table deviceId keyName).map id .ok)
  | .bindings filter => some (table, .listed ((allBindings K table).filter fun b =>
      filter.isEmpty || b.deviceId == filter))
  | .reload | .edit _ => none

/-- The request as one atomic operation: a reload reads the file as it is and replaces the table, or
fails and changes nothing. -/
def apply (st : Store) : Request → Store × Reply
  | .reload =>
    match (load C K "" st.file).run {} with
    | .ok true g => ({ st with table := init st.table g }, .ok true)
    | _ => (st, .ok false)
  | .edit file => ({ st with file }, .edited)
  | req =>
    match mapperCall K st.table req with
    | some (table, reply) => ({ st with table }, reply)
    | none => (st, .edited)

def State.setPhase (s : State) (id : ℕ) (ph : Phase) : State :=
  { s with phase := Function.update s.phase id ph }

def State.useMapper (s : State) (table : Table) : State :=
  { s with table, uses := s.uses + 1 }

def step (s : State) (a : Action) : Option State :=
  if s.crashed then none
  else match a with
    | .invoke id req =>
      match s.phase id, req with
      | .idle, .edit _ => none
      | .idle, req => some { s.setPhase id (.invoked req) with
          history := s.history ++ [.invoke id req] }
      | _, _ => none
    | .mapper id =>
      match s.phase id with
      | .invoked req => (mapperCall K s.table req).map fun (table, reply) =>
          (s.useMapper table).setPhase id (.done reply)
      | _ => none
    | .read id =>
      match s.phase id with
      | .invoked .reload =>
        match s.file.bind C.reader with
        | none => some (s.setPhase id (.done (.ok false)))
        | some root => some (s.setPhase id (.parsed root s.uses))
      | _ => none
    | .install id =>
      match s.phase id with
      | .parsed root uses =>
        match (install K s.config.configPath root).run s.config with
        | .ok true config => some { s.setPhase id (.loaded root uses) with config }
        | .ok false config => some { s.setPhase id (.done (.ok false)) with config }
        | .error _ config => some { s with config, crashed := true }
      | _ => none
    | .init id =>
      match s.phase id with
      | .loaded _ _ => some ((s.useMapper (init s.table s.config)).setPhase id (.done (.ok true)))
      | _ => none
    | .respond id =>
      match s.phase id with
      | .done reply => some { s.setPhase id .responded with
          history := s.history ++ [.respond id reply] }
      | _ => none
    | .edit id file =>
      match s.phase id with
      | .idle => some { s.setPhase id .responded with
          file, history := s.history ++ [.invoke id (.edit file), .respond id .edited] }
      | _ => none

def GivesDevices (file : Option Bytes) (devices : List DeviceConfig) : Prop :=
  ∃ g, (load C K "" file).run {} = .ok true g ∧ g.devices = devices

/-- The mapper is initialised with the devices of the file as it is, or with those that the reload
has read itself and with no other use of the mapper since. -/
def Undisturbed (s : State) : Action → Prop
  | .init id => ∀ root uses, s.phase id = .loaded root uses →
      GivesDevices C K s.file s.config.devices ∨
        documentDevices K root = s.config.devices ∧ uses = s.uses
  | _ => True

abbrev Entry := Linearizability.Call Request Reply

def Silent (c : Entry) : Prop :=
  (∃ file, c.op = .edit file) ∨ c.op = .reload ∧ c.ret = .ok false

def Pending (s : State) (order : List Entry) (id : ℕ) (req : Request) : Prop :=
  .invoke id req ∈ s.history ∧ (∀ reply, .respond id reply ∉ s.history) ∧
    id ∉ order.map Linearizability.Call.id

def ReadBefore (start : Store) (s : State) (order : List Entry) (id : ℕ) (root : Json) : Prop :=
  ∃ pre post file, order = pre ++ post ∧ file.bind C.reader = some root ∧
    Legal (apply C K) start pre ⟨file, s.table⟩ ∧ (∀ c ∈ post, Silent c) ∧
    ∀ c ∈ post, ¬ Precedes s.history (.respond c.id c.ret) (.invoke id .reload)

def PhaseInv (start : Store) (s : State) (order : List Entry) (id : ℕ) : Phase → Prop
  | .idle => (∀ e ∈ s.history, e.id ≠ id) ∧ id ∉ order.map Linearizability.Call.id
  | .invoked req => Pending s order id req
  | .parsed root uses => uses ≤ s.uses ∧
      (Loadable K root → Pending s order id .reload ∧
        (uses = s.uses → ReadBefore C K start s order id root)) ∧
      (¬ Loadable K root → ⟨id, .reload, .ok false⟩ ∈ order)
  | .loaded root uses => uses ≤ s.uses ∧ Loadable K root ∧ Pending s order id .reload ∧
      (uses = s.uses → ReadBefore C K start s order id root)
  | .done reply => ∃ req, ⟨id, req, reply⟩ ∈ order
  | .responded => True

structure Inv (start : Store) (s : State) (order : List Entry) : Prop where
  lin : Linearization (apply C K) start s.history order ⟨s.file, s.table⟩
  phases : ∀ id, PhaseInv C K start s order id (s.phase id)

section Specification

variable {C K} {file file' : Option Bytes} {table table' : Table} {root : Json}

lemma apply_gives {config : Config} (h : GivesDevices C K file config.devices) (table : Table) :
    apply C K ⟨file, table⟩ .reload = (⟨file, init table config⟩, .ok true) := by
  obtain ⟨g, hg, hd⟩ := h
  have hi : init table g = init table config := by rw [init, init, hd]
  simp only [apply, hg, hi]

lemma gives_of_loadable (h : file.bind C.reader = some root) (hl : Loadable K root) :
    GivesDevices C K file (documentDevices K root) :=
  ⟨_, load_loadable h hl {}, rfl⟩

lemma apply_fails (h : ∀ root, file.bind C.reader = some root → ¬ Loadable K root) (table : Table) :
    apply C K ⟨file, table⟩ .reload = (⟨file, table⟩, .ok false) := by
  cases hf : file.bind C.reader with
  | none => simp only [apply, load_unparsed hf]
  | some root =>
    rcases @load_not_loadable C K "" file root hf (h root hf) {} with hr | ⟨e, hr⟩
    · simp only [apply, hr]
    · simp only [apply, hr]

lemma apply_mapperCall {req : Request} {reply : Reply}
    (h : mapperCall K table req = some (table', reply)) :
    apply C K ⟨file, table⟩ req = (⟨file, table'⟩, reply) := by
  cases req with
  | reload => cases h
  | edit content => cases h
  | _ => simp only [apply, h]

lemma apply_reload (st : Store) : (apply C K st .reload = (st, .ok false) ∧
      ∀ table, apply C K { st with table } .reload = ({ st with table }, .ok false)) ∨
    (apply C K st .reload).2 = .ok true := by
  simp only [apply]
  split
  · exact .inr rfl
  · exact .inl ⟨rfl, fun _ => rfl⟩

lemma legal_silent {post : List Entry} (hs : ∀ c ∈ post, Silent c)
    (h : Legal (apply C K) ⟨file, table⟩ post ⟨file', table'⟩) :
    table' = table ∧ ∀ table, Legal (apply C K) ⟨file, table⟩ post ⟨file', table⟩ := by
  induction post generalizing file with
  | nil =>
    obtain ⟨rfl, rfl⟩ := Store.mk.inj (legal_nil.mp h)
    exact ⟨rfl, fun _ => legal_nil.mpr rfl⟩
  | cons c post ih =>
    obtain ⟨hret, ht⟩ := legal_cons.mp h
    have hrest : ∀ c ∈ post, Silent c := fun b hb => hs b (List.mem_cons_of_mem c hb)
    rcases hs c List.mem_cons_self with ⟨content, hop⟩ | ⟨hop, hfalse⟩
    · rw [hop] at hret ht
      obtain ⟨rfl, hlegal⟩ := ih hrest ht
      exact ⟨rfl, fun table => legal_cons.mpr (by rw [hop]; exact ⟨hret, hlegal table⟩)⟩
    · rw [hop, hfalse] at hret
      rcases apply_reload ⟨file, table⟩ with ⟨he, hall⟩ | he
      · rw [hop, he] at ht
        obtain ⟨rfl, hlegal⟩ := ih hrest ht
        refine ⟨rfl, fun table => legal_cons.mpr ?_⟩
        rw [hop, hfalse, hall table]
        exact ⟨rfl, hlegal table⟩
      · rw [he] at hret
        cases hret

lemma install_run (path : String) (root : Json) (g : Config) :
    (Loadable K root → (install K path root).run g = .ok true (installed K path root g)) ∧
      (¬ Loadable K root → ∃ g', (install K path root).run g = .ok false g' ∨
        ∃ e, (install K path root).run g = .error e g') := by
  let reads : Codec := ⟨fun _ => some root, fun _ => none, fun _ => "", fun _ => [], fun _ => []⟩
  have h : (some []).bind reads.reader = some root := rfl
  rw [← @load_eq_install reads K path (some []) root h]
  exact ⟨fun hl => load_loadable h hl g, fun hl => ⟨_, load_not_loadable h hl g⟩⟩

end Specification

section Frame

variable {C K} {start : Store} {s s' : State} {order order' : List Entry} {id i : ℕ}

structure Extends (s s' : State) (order order' : List Entry) (id : ℕ) : Prop where
  phase : ∀ i, i ≠ id → s'.phase i = s.phase i
  events : ∃ new, s'.history = s.history ++ new ∧ ∀ e ∈ new, e.id = id
  calls : ∀ c ∈ order, c ∈ order'
  newCalls : ∀ c ∈ order', c ∈ order ∨ c.id = id
  uses : s.uses ≤ s'.uses
  silent : s'.uses = s.uses → s'.table = s.table ∧ ∃ extra, order' = order ++ extra ∧
    ∀ c ∈ extra, Silent c ∧ ∀ reply, .respond c.id reply ∉ s.history

lemma Extends.not_called (h : Extends s s' order order' id) (hi : i ≠ id)
    (hn : i ∉ order.map Linearizability.Call.id) : i ∉ order'.map Linearizability.Call.id := by
  intro hm
  obtain ⟨c, hc, rfl⟩ := List.mem_map.mp hm
  rcases h.newCalls c hc with hc | hc
  · exact hn (List.mem_map_of_mem hc)
  · exact hi hc

lemma Extends.pending (h : Extends s s' order order' id) (hi : i ≠ id) {req : Request}
    (hp : Pending s order i req) : Pending s' order' i req := by
  obtain ⟨hinv, hres, hn⟩ := hp
  obtain ⟨new, hnew, hid⟩ := h.events
  refine ⟨?_, fun reply hr => ?_, h.not_called hi hn⟩
  · rw [hnew]
    exact List.mem_append_left _ hinv
  · rw [hnew] at hr
    rcases List.mem_append.mp hr with hr | hr
    · exact hres reply hr
    · exact hi (hid _ hr)

lemma Extends.readBefore (h : Extends s s' order order' id) (hi : i ≠ id) {root : Json}
    (hu : s'.uses = s.uses) (hr : ReadBefore C K start s order i root) :
    ReadBefore C K start s' order' i root := by
  obtain ⟨pre, post, file, rfl, hfile, hlegal, hsilent, hprec⟩ := hr
  obtain ⟨new, hnew, hid⟩ := h.events
  obtain ⟨htable, extra, rfl, hextra⟩ := h.silent hu
  refine ⟨pre, post ++ extra, file, List.append_assoc pre post extra, hfile, htable ▸ hlegal, ?_, ?_⟩
  · intro c hc
    exact (List.mem_append.mp hc).elim (hsilent c) fun hc => (hextra c hc).1
  · intro c hc hp
    rw [hnew] at hp
    have hold := hp.of_append fun he => hi (hid _ he)
    rcases List.mem_append.mp hc with hc | hc
    · exact hprec c hc hold
    · exact (hextra c hc).2 c.ret hold.mem.1

lemma Extends.phaseInv (h : Extends s s' order order' id) (hi : i ≠ id) {ph : Phase}
    (hp : PhaseInv C K start s order i ph) : PhaseInv C K start s' order' i ph := by
  have huses : ∀ uses, uses ≤ s.uses → uses = s'.uses → s'.uses = s.uses ∧ uses = s.uses := by
    have hle := h.uses
    intro uses h₁ h₂
    omega
  cases ph with
  | idle =>
    obtain ⟨new, hnew, hid⟩ := h.events
    refine ⟨fun e he => ?_, h.not_called hi hp.2⟩
    rw [hnew] at he
    rcases List.mem_append.mp he with he | he
    · exact hp.1 e he
    · rw [hid e he]
      exact hi.symm
  | invoked req => exact h.pending hi hp
  | parsed root uses =>
    obtain ⟨hle, hload, hfail⟩ := hp
    refine ⟨hle.trans h.uses, fun hl => ⟨h.pending hi (hload hl).1, fun hu => ?_⟩,
      fun hl => h.calls _ (hfail hl)⟩
    obtain ⟨hu', hu⟩ := huses uses hle hu
    exact h.readBefore hi hu' ((hload hl).2 hu)
  | loaded root uses =>
    obtain ⟨hle, hload, hpend, hread⟩ := hp
    refine ⟨hle.trans h.uses, hload, h.pending hi hpend, fun hu => ?_⟩
    obtain ⟨hu', hu⟩ := huses uses hle hu
    exact h.readBefore hi hu' (hread hu)
  | done reply =>
    obtain ⟨req, hc⟩ := hp
    exact ⟨req, h.calls _ hc⟩
  | responded => trivial

lemma Extends.inv (h : Extends s s' order order' id) (hi : Inv C K start s order)
    (hlin : Linearization (apply C K) start s'.history order' ⟨s'.file, s'.table⟩)
    (hself : PhaseInv C K start s' order' id (s'.phase id)) : Inv C K start s' order' := by
  refine ⟨hlin, fun i => ?_⟩
  by_cases hid : i = id
  · exact hid ▸ hself
  · rw [h.phase i hid]
    exact h.phaseInv hid (hi.phases i)

variable {ph : Phase} {c : Entry}

lemma extends_events {new : History Request Reply} (hphase : s'.phase = Function.update s.phase id ph)
    (hhistory : s'.history = s.history ++ new) (hnew : ∀ e ∈ new, e.id = id)
    (huses : s'.uses = s.uses) (htable : s'.table = s.table) : Extends s s' order order id where
  phase i hi := by rw [hphase, Function.update_of_ne hi]
  events := ⟨new, hhistory, hnew⟩
  calls _ hc := hc
  newCalls _ hc := .inl hc
  uses := huses.ge
  silent _ := ⟨htable, [], (List.append_nil order).symm, by simp⟩

lemma mem_snoc (hc : c.id = id) : ∀ b ∈ order ++ [c], b ∈ order ∨ b.id = id := by
  intro b hb
  rcases List.mem_append.mp hb with hb | hb
  · exact .inl hb
  · rw [List.mem_singleton.mp hb]
    exact .inr hc

lemma extends_silent {new : History Request Reply} (hphase : s'.phase = Function.update s.phase id ph)
    (hhistory : s'.history = s.history ++ new) (hnew : ∀ e ∈ new, e.id = id)
    (huses : s'.uses = s.uses) (htable : s'.table = s.table) (hc : c.id = id) (hs : Silent c)
    (hres : ∀ reply, .respond id reply ∉ s.history) : Extends s s' order (order ++ [c]) id where
  phase i hi := by rw [hphase, Function.update_of_ne hi]
  events := ⟨new, hhistory, hnew⟩
  calls _ hm := List.mem_append_left _ hm
  newCalls := mem_snoc hc
  uses := huses.ge
  silent _ := by
    refine ⟨htable, [c], rfl, fun b hb => ?_⟩
    rw [List.mem_singleton.mp hb, hc]
    exact ⟨hs, hres⟩

lemma extends_use (table : Table) (hcalls : ∀ c ∈ order, c ∈ order')
    (hnew : ∀ c ∈ order', c ∈ order ∨ c.id = id) :
    Extends s ((s.useMapper table).setPhase id ph) order order' id where
  phase i hi := Function.update_of_ne hi _ _
  events := ⟨[], (List.append_nil _).symm, by simp⟩
  calls := hcalls
  newCalls := hnew
  uses := Nat.le_succ _
  silent h := absurd h (Nat.succ_ne_self _)

end Frame

section Steps

variable {C K} {start : Store} {s t : State} {order : List Entry} {id : ℕ} {a : Action}

@[simp] lemma setPhase_self (ph : Phase) : (s.setPhase id ph).phase id = ph :=
  Function.update_self _ _ _

lemma Inv.phase (hi : Inv C K start s order) {ph : Phase} (hp : s.phase id = ph) :
    PhaseInv C K start s order id ph := hp ▸ hi.phases id

lemma inv_invoke (hi : Inv C K start s order) (hp : s.phase id = .idle) (req : Request) :
    Inv C K start { s.setPhase id (.invoked req) with
      history := s.history ++ [.invoke id req] } order := by
  obtain ⟨hnone, hid⟩ := hi.phase hp
  refine Extends.inv (s := s) (extends_events rfl rfl ?_ rfl rfl) hi (hi.lin.invoke req hid) ?_
  · simp [Event.id]
  rw [setPhase_self]
  refine ⟨by simp, fun reply hr => ?_, hid⟩
  rcases List.mem_append.mp hr with hr | hr
  · exact hnone _ hr rfl
  · simp at hr

lemma inv_edit (hi : Inv C K start s order) (hp : s.phase id = .idle) (file : Option Bytes) :
    Inv C K start { s.setPhase id .responded with
      file, history := s.history ++ [.invoke id (.edit file), .respond id .edited] }
      (order ++ [⟨id, .edit file, .edited⟩]) := by
  obtain ⟨hnone, hid⟩ := hi.phase hp
  have hres : ∀ reply, .respond id reply ∉ s.history := fun reply hr => hnone _ hr rfl
  have hlin := (hi.lin.invoke (.edit file) hid).snoc (c := ⟨id, .edit file, .edited⟩)
    hid (by simp) (by simpa using hres) rfl
  have hdone := hlin.respond (c := ⟨id, .edit file, .edited⟩) (by simp)
  rw [List.append_assoc] at hdone
  refine Extends.inv (s := s) (extends_silent rfl rfl ?_ rfl rfl rfl (.inl ⟨file, rfl⟩) hres) hi
    hdone ?_
  · simp [Event.id]
  rw [setPhase_self]
  trivial

lemma inv_mapper (hi : Inv C K start s order) {req : Request} (hp : s.phase id = .invoked req)
    {table : Table} {reply : Reply} (hcall : mapperCall K s.table req = some (table, reply)) :
    Inv C K start ((s.useMapper table).setPhase id (.done reply)) (order ++ [⟨id, req, reply⟩]) := by
  obtain ⟨hinvoked, hres, hid⟩ := hi.phase hp
  have hlin := hi.lin.snoc (c := ⟨id, req, reply⟩) hid hinvoked hres (apply_mapperCall hcall)
  refine (extends_use table (fun c hc => List.mem_append_left _ hc) (mem_snoc rfl)).inv hi hlin ?_
  rw [setPhase_self]
  exact ⟨req, by simp⟩

lemma inv_read_fails (hi : Inv C K start s order) (hp : s.phase id = .invoked .reload)
    (hfile : ∀ root, s.file.bind C.reader = some root → ¬ Loadable K root) {ph : Phase}
    (hself : ⟨id, .reload, .ok false⟩ ∈ order ++ [⟨id, .reload, .ok false⟩] →
      PhaseInv C K start (s.setPhase id ph) (order ++ [⟨id, .reload, .ok false⟩]) id ph) :
    Inv C K start (s.setPhase id ph) (order ++ [⟨id, .reload, .ok false⟩]) := by
  obtain ⟨hinvoked, hres, hid⟩ := hi.phase hp
  refine Extends.inv (s := s) (extends_silent rfl (List.append_nil _).symm (by simp) rfl rfl rfl
    (.inr ⟨rfl, rfl⟩) hres) hi (hi.lin.snoc hid hinvoked hres (apply_fails hfile s.table)) ?_
  rw [setPhase_self]
  exact hself (by simp)

lemma inv_read_loads (hi : Inv C K start s order) (hp : s.phase id = .invoked .reload)
    {root : Json} (hfile : s.file.bind C.reader = some root) (hl : Loadable K root) :
    Inv C K start (s.setPhase id (.parsed root s.uses)) order := by
  have hpend := hi.phase hp
  have hext : Extends s (s.setPhase id (.parsed root s.uses)) order order id :=
    extends_events rfl (List.append_nil _).symm (by simp) rfl rfl
  refine hext.inv hi hi.lin ?_
  rw [setPhase_self]
  refine ⟨le_rfl, fun _ => ⟨hpend, fun _ => ?_⟩, fun hn => absurd hl hn⟩
  exact ⟨order, [], s.file, (List.append_nil _).symm, hfile, hi.lin.legal, by simp, by simp⟩

lemma inv_install (hi : Inv C K start s order) {root : Json} {uses : ℕ}
    (hp : s.phase id = .parsed root uses) (config : Config) :
    (Loadable K root → Inv C K start { s.setPhase id (.loaded root uses) with config } order) ∧
      (¬ Loadable K root →
        Inv C K start { s.setPhase id (.done (.ok false)) with config } order) := by
  obtain ⟨huses, hload, hfail⟩ := hi.phase hp
  constructor
  · intro hl
    obtain ⟨hpend, hread⟩ := hload hl
    refine Extends.inv (s := s) (extends_events rfl (List.append_nil _).symm (by simp) rfl rfl) hi
      hi.lin ?_
    rw [setPhase_self]
    exact ⟨huses, hl, hpend, hread⟩
  · intro hn
    refine Extends.inv (s := s) (extends_events rfl (List.append_nil _).symm (by simp) rfl rfl) hi
      hi.lin ?_
    rw [setPhase_self]
    exact ⟨.reload, hfail hn⟩

lemma inv_init (hi : Inv C K start s order) {root : Json} {uses : ℕ}
    (hp : s.phase id = .loaded root uses) (hg : Undisturbed C K s (.init id)) :
    ∃ order', Inv C K start
      ((s.useMapper (init s.table s.config)).setPhase id (.done (.ok true))) order' := by
  obtain ⟨-, hl, ⟨hinvoked, hres, hid⟩, hread⟩ := hi.phase hp
  have hdone : ∀ order', ⟨id, .reload, .ok true⟩ ∈ order' → PhaseInv C K start
      ((s.useMapper (init s.table s.config)).setPhase id (.done (.ok true))) order' id
      (.done (.ok true)) := fun order' hm => ⟨.reload, hm⟩
  rcases hg root uses hp with hgives | ⟨hdevices, huses⟩
  · -- the reload takes effect now
    have hlin := hi.lin.snoc (c := ⟨id, .reload, .ok true⟩) hid hinvoked hres
      (apply_gives hgives s.table)
    refine ⟨_, (extends_use _ (fun c hc => List.mem_append_left _ hc) (mem_snoc rfl)).inv hi hlin ?_⟩
    rw [setPhase_self]
    exact hdone _ (by simp)
  · -- the reload has taken effect when it read the file
    obtain ⟨pre, post, file, rfl, hfile, hpre, hsilent, hprec⟩ := hread huses
    obtain ⟨u, hpre', hpost⟩ := legal_append.mp hi.lin.legal
    obtain rfl := hpre.unique hpre'
    have hgives : GivesDevices C K file s.config.devices := hdevices ▸ gives_of_loadable hfile hl
    have hlegal : Legal (apply C K) start (pre ++ ⟨id, .reload, .ok true⟩ :: post)
        ⟨s.file, init s.table s.config⟩ := by
      refine legal_append.mpr ⟨⟨file, s.table⟩, hpre, legal_cons.mpr ?_⟩
      rw [apply_gives hgives]
      exact ⟨rfl, (legal_silent hsilent hpost).2 _⟩
    have hlin := hi.lin.insert (c := ⟨id, .reload, .ok true⟩) hid hinvoked hres hprec hlegal
    refine ⟨_, (extends_use _ ?_ ?_).inv hi hlin ?_⟩
    · intro c hc
      simp only [List.mem_append, List.mem_cons] at hc ⊢
      tauto
    · intro c hc
      simp only [List.mem_append, List.mem_cons] at hc ⊢
      rcases hc with hc | rfl | hc
      · exact .inl (.inl hc)
      · exact .inr rfl
      · exact .inl (.inr hc)
    rw [setPhase_self]
    exact hdone _ (by simp)

lemma inv_respond (hi : Inv C K start s order) {reply : Reply} (hp : s.phase id = .done reply) :
    Inv C K start { s.setPhase id .responded with
      history := s.history ++ [.respond id reply] } order := by
  obtain ⟨req, hc⟩ := hi.phase hp
  refine Extends.inv (s := s) (extends_events rfl rfl ?_ rfl rfl) hi (hi.lin.respond hc) ?_
  · simp [Event.id]
  rw [setPhase_self]
  trivial

lemma inv_step (hi : Inv C K start s order) (hg : Undisturbed C K s a) (h : step C K s a = some t) :
    ∃ order', Inv C K start t order' := by
  rw [step.eq_def] at h
  split at h
  · cases h
  cases a with
  | invoke id req =>
    dsimp only at h
    split at h
    · cases h
    · next hp _ => exact ⟨order, Option.some.inj h ▸ inv_invoke hi hp _⟩
    · cases h
  | mapper id =>
    dsimp only at h
    split at h
    · next req hp =>
      obtain ⟨⟨table, reply⟩, hcall, rfl⟩ := Option.map_eq_some_iff.mp h
      exact ⟨_, inv_mapper hi hp hcall⟩
    · cases h
  | read id =>
    dsimp only at h
    split at h
    · next hp =>
      split at h
      · next hnone =>
        obtain rfl := Option.some.inj h
        refine ⟨_, inv_read_fails hi hp (fun root hroot => ?_) fun hm => ⟨.reload, hm⟩⟩
        rw [hnone] at hroot
        cases hroot
      · next root hroot =>
        obtain rfl := Option.some.inj h
        by_cases hl : Loadable K root
        · exact ⟨_, inv_read_loads hi hp hroot hl⟩
        · refine ⟨_, inv_read_fails hi hp (fun root' hroot' => ?_) fun hm => ?_⟩
          · exact Option.some.inj (hroot.symm.trans hroot') ▸ hl
          · exact ⟨le_rfl, fun hl' => absurd hl' hl, fun _ => hm⟩
    · cases h
  | install id =>
    dsimp only at h
    split at h
    · next root uses hp =>
      obtain ⟨hok, hfail⟩ := install_run (K := K) s.config.configPath root s.config
      by_cases hl : Loadable K root
      · rw [hok hl] at h
        exact ⟨order, Option.some.inj h ▸ (inv_install hi hp _).1 hl⟩
      · obtain ⟨g, hr | ⟨e, hr⟩⟩ := hfail hl
        · rw [hr] at h
          exact ⟨order, Option.some.inj h ▸ (inv_install hi hp _).2 hl⟩
        · rw [hr] at h
          exact ⟨order, Option.some.inj h ▸ ⟨hi.lin, hi.phases⟩⟩
    · cases h
  | init id =>
    dsimp only at h
    split at h
    · next root uses hp => exact Option.some.inj h ▸ inv_init hi hp hg
    · cases h
  | respond id =>
    dsimp only at h
    split at h
    · next hp => exact ⟨order, Option.some.inj h ▸ inv_respond hi hp⟩
    · cases h
  | edit id file =>
    dsimp only at h
    split at h
    · next hp => exact ⟨_, Option.some.inj h ▸ inv_edit hi hp file⟩
    · cases h

end Steps

theorem control_plane_linearizable (file : Option Bytes) (config : Config) (table : Table)
    (as : List Action) (t : State) (hrun : exec (step C K) { file, config, table } as = some t)
    (hguard : Guarded (step C K) (Undisturbed C K) { file, config, table } as) :
    Linearizable (apply C K) ⟨file, table⟩ t.history ⟨t.file, t.table⟩ := by
  have hstart : Inv C K ⟨file, table⟩ { file, config, table } [] :=
    ⟨Linearization.nil _ _, fun id => ⟨by simp, by simp⟩⟩
  have hstep : ∀ s a t, (∃ order, Inv C K ⟨file, table⟩ s order) → Undisturbed C K s a →
      step C K s a = some t → ∃ order, Inv C K ⟨file, table⟩ t order :=
    fun _ _ _ ⟨_, hi⟩ hg h => inv_step hi hg h
  obtain ⟨order, hi⟩ := guarded_invariant hstep ⟨[], hstart⟩ hguard hrun
  exact ⟨order, hi.lin⟩

section Runs

open ConfigMeaning FailedReload

def planeCodec : Codec :=
  .ofTable [(padText, .object [("devices", .array [padBlock])]), (emptyObject, .object [])]

def reloadThenBind : List Action :=
  [.invoke 0 .reload, .read 0, .invoke 1 (.bind "macro_pad" "KEY_B" "gimp"), .install 0, .init 0,
    .mapper 1, .respond 1, .respond 0]

theorem reload_then_bind_linearizable : ∃ t,
    exec (step planeCodec inputEventCodes) { file := some padText } reloadThenBind = some t ∧
    Linearizable (apply planeCodec inputEventCodes) ⟨some padText, ∅⟩ t.history
      ⟨t.file, t.table⟩ := by
  refine ⟨_, rfl, ?_⟩
  refine control_plane_linearizable planeCodec inputEventCodes (some padText) {} ∅ reloadThenBind _
    rfl ?_
  iterate 4 refine guarded_cons trivial rfl ?_
  refine guarded_cons ?_ rfl ?_
  · intro root uses hp
    cases hp
    exact .inr ⟨rfl, rfl⟩
  · iterate 3 refine guarded_cons trivial rfl ?_
    trivial

def racingReloads : List Action :=
  [.invoke 0 .reload, .read 0, .install 0, .edit 1 (some emptyObject), .invoke 2 .reload, .read 2,
    .install 2, .respond 2, .init 0, .respond 0]

def Bound (table : Table) : Prop := lookup table "macro_pad" 30 = some "xdotool key F13"

lemma pad_bound (table : Table) :
    ∃ table', apply planeCodec inputEventCodes ⟨some padText, table⟩ .reload =
      (⟨some padText, table'⟩, .ok true) ∧ Bound table' := by
  have hs : ∀ dev ∈ [padBlock], CommandsAreStrings dev := by decide
  have hfile : (some padText).bind planeCodec.reader =
      some (.object [("devices", .array [padBlock])]) := rfl
  have hl : Loadable inputEventCodes (.object [("devices", .array [padBlock])]) :=
    ⟨[padBlock], rfl, fun dev hd => readable_of_strings _ (by simp_all [padBlock]; rfl) (hs dev hd)⟩
  let config : Config := { devices := keptDevices inputEventCodes [padBlock] }
  have hgives : GivesDevices planeCodec inputEventCodes (some padText) config.devices :=
    gives_of_loadable hfile hl
  refine ⟨_, apply_gives hgives table, ?_⟩
  rw [Bound, lookup_eq, flat_init, flat_init]
  simp only [config, lastBinding_keptDevices inputEventCodes hs]
  decide

lemma empty_fails (table : Table) :
    apply planeCodec inputEventCodes ⟨some emptyObject, table⟩ .reload =
      (⟨some emptyObject, table⟩, .ok false) := by
  apply apply_fails
  intro root hroot
  obtain rfl : .object [] = root := Option.some.inj hroot
  rintro ⟨devs, hd, -⟩
  cases hd

lemma bound_of_reloaded {calls : List Entry} {file file' : Option Bytes} {table table' : Table}
    (hfile : file = some padText ∨ file = some emptyObject)
    (hops : ∀ c ∈ calls, c.op = .reload ∨ c.op = .edit (some emptyObject))
    (hl : Legal (apply planeCodec inputEventCodes) ⟨file, table⟩ calls ⟨file', table'⟩)
    (h : Bound table ∨ ∃ c ∈ calls, c.ret = .ok true) : Bound table' := by
  induction calls generalizing file table with
  | nil =>
    obtain ⟨-, rfl⟩ := Store.mk.inj (legal_nil.mp hl)
    simpa using h
  | cons c calls ih =>
    obtain ⟨hret, ht⟩ := legal_cons.mp hl
    have hrest := fun b hb => hops b (List.mem_cons_of_mem c hb)
    -- an operation that answers otherwise leaves the table and the question to the rest
    have hskip : c.ret ≠ .ok true → Bound table ∨ ∃ c ∈ calls, c.ret = .ok true := by
      intro hne
      refine h.imp_right fun ⟨b, hb, hbret⟩ => ⟨b, ?_, hbret⟩
      exact (List.mem_cons.mp hb).resolve_left fun he => hne (he ▸ hbret)
    rcases hops c List.mem_cons_self with hop | hop
    · rw [hop] at hret ht
      rcases hfile with rfl | rfl
      · obtain ⟨table₁, happly, hb⟩ := pad_bound table
        rw [happly] at ht
        exact ih (.inl rfl) hrest ht (.inl hb)
      · rw [empty_fails] at hret ht
        exact ih (.inr rfl) hrest ht (hskip (by simp [← hret]))
    · rw [hop] at hret ht
      exact ih (.inr rfl) hrest ht (hskip (by rw [← hret]; simp [apply]))

theorem failing_reload_empties_table : ∃ t,
    exec (step planeCodec inputEventCodes) { file := some padText } racingReloads = some t ∧
    t.table = ∅ ∧ ¬ Linearizable (apply planeCodec inputEventCodes) ⟨some padText, ∅⟩ t.history
      ⟨t.file, t.table⟩ := by
  refine ⟨_, rfl, rfl, ?_⟩
  rintro ⟨order, hl⟩
  obtain ⟨c, hc, -, hret⟩ := hl.answered 0 (.ok true) (by simp)
  have hops : ∀ c ∈ order, c.op = .reload ∨ c.op = .edit (some emptyObject) := by
    intro c hc
    have hm : .invoke c.id c.op ∈ [Event.invoke 0 Request.reload, .invoke 1 (.edit (some emptyObject)),
        .respond 1 Reply.edited, .invoke 2 .reload, .respond 2 (.ok false), .respond 0 (.ok true)] :=
      hl.invoked c hc
    simp only [List.mem_cons, Event.invoke.injEq, reduceCtorEq, List.not_mem_nil, or_false,
      false_or] at hm
    tauto
  have hb : Bound ∅ := bound_of_reloaded (.inl rfl) hops hl.legal (.inr ⟨c, hc, hret⟩)
  rw [Bound, lookup_eq, FiniteMaps.flat_empty, FiniteMaps.flat_empty] at hb
  cases hb

end Runs

end PointerForce.Daemon.ControlPlane
