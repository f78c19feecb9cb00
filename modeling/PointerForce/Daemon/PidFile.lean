import PointerForce.Foundations.Runs

/-! The processes of one machine around the PID file: what each of them does from its start to its
exit, with the pids that the kernel gives out. -/

namespace PointerForce.Daemon.PidFile

open Foundations.Runs

/-- `found` has read a pid that it has still to check. `opened` has truncated the file, an inode,
that it has still to write to, and `ending` will not touch the PID file again. -/
inductive Phase where
  | absent
  | starting
  | found (pid : ℕ)
  | stale
  | passed
  | forked
  | opened (inode : ℕ)
  | ready
  | devices
  | running
  | stopping
  | ending
  | exited
  deriving DecidableEq, Repr

def Phase.live : Phase → Bool
  | .absent | .exited => false
  | _ => true

def Phase.pastGuard : Phase → Bool
  | .passed | .forked | .opened _ | .ready | .devices | .running | .stopping => true
  | _ => false

def Phase.settled : Phase → Bool
  | .ready | .devices | .running | .stopping => true
  | _ => false

structure Record where
  pid : ℕ
  writer : ℕ
  deriving DecidableEq, Repr

structure File where
  inode : ℕ
  content : Option Record := none
  deriving DecidableEq, Repr

inductive Owner where
  | other
  | process (p : ℕ)
  deriving DecidableEq, Repr

/-- A call of `remove_pid`: the file before it, and whether the writer of the file was alive. -/
structure Removal where
  pid : ℕ
  file : Option File
  writerLive : Bool
  deriving DecidableEq, Repr

structure Processes where
  phase : ℕ → Phase := fun _ => .absent
  pid : ℕ → ℕ := fun _ => 0
  daemon : ℕ → Bool := fun _ => false
  owner : ℕ → Option Owner := fun _ => none

structure State where
  processes : Processes := {}
  file : Option File := none
  nextInode : ℕ := 0
  socket : Option ℕ := none
  removals : List Removal := []

inductive Action where
  | launch (p pid : ℕ) (daemon : Bool)
  | readPid (p : ℕ)
  | kill (p : ℕ)
  | removeStale (p : ℕ)
  | fork (p pid : ℕ)
  | foreground (p : ℕ)
  | openPid (p : ℕ)
  | openFails (p : ℕ)
  | writePid (p : ℕ)
  | openDevices (p : ℕ) (any : Bool)
  | startControl (p : ℕ) (ok : Bool)
  | stopControl (p : ℕ)
  | removePid (p : ℕ)
  | exit (p : ℕ)
  | die (p : ℕ)
  | otherStarts (pid : ℕ)
  | otherExits (pid : ℕ)

def Processes.set (m : Processes) (p : ℕ) (ph : Phase) : Processes :=
  { m with phase := Function.update m.phase p ph }

def Processes.launch (m : Processes) (p pid : ℕ) (daemon : Bool) : Processes :=
  { m.set p .starting with
    pid := Function.update m.pid p pid
    daemon := Function.update m.daemon p daemon
    owner := Function.update m.owner pid (some (.process p)) }

/-- The process goes on under the pid of its grandchild, while the parent has still to exit. -/
def Processes.fork (m : Processes) (p pid : ℕ) : Processes :=
  { m.set p .forked with
    pid := Function.update m.pid p pid
    owner := Function.update (Function.update m.owner (m.pid p) (some .other)) pid
      (some (.process p)) }

def Processes.exit (m : Processes) (p : ℕ) : Processes :=
  { m.set p .exited with owner := Function.update m.owner (m.pid p) none }

def Processes.setOwner (m : Processes) (pid : ℕ) (o : Option Owner) : Processes :=
  { m with owner := Function.update m.owner pid o }

def State.filePid (s : State) : Option ℕ := (s.file.bind File.content).map Record.pid

def State.writerLive (s : State) : Bool :=
  match s.file.bind File.content with
  | some record => (s.processes.phase record.writer).live
  | none => false

def State.set (s : State) (p : ℕ) (ph : Phase) : State :=
  { s with processes := s.processes.set p ph }

def State.remove (s : State) (p : ℕ) (ph : Phase) : State :=
  { s.set p ph with
    file := none
    removals := s.removals ++ [⟨s.processes.pid p, s.file, s.writerLive⟩] }

def State.truncate (s : State) (p : ℕ) : State :=
  match s.file with
  | some f => { s.set p (.opened f.inode) with file := some { f with content := none } }
  | none => { s.set p (.opened s.nextInode) with
      file := some ⟨s.nextInode, none⟩, nextInode := s.nextInode + 1 }

-- the text goes to the inode that was opened, wherever the path leads by now
def State.write (s : State) (p inode : ℕ) : State :=
  { s.set p .ready with
    file := s.file.map fun f =>
      if f.inode = inode then { f with content := some ⟨s.processes.pid p, p⟩ } else f }

def step (s : State) (a : Action) : Option State :=
  let m := s.processes
  match a with
  | .launch p pid daemon =>
    if m.phase p = .absent ∧ 0 < pid ∧ m.owner pid = none then
      some { s with processes := m.launch p pid daemon }
    else none
  | .readPid p =>
    if m.phase p = .starting then
      some (s.set p (s.filePid.elim .passed .found))
    else none
  | .kill p =>
    match m.phase p with
    | .found pid => some (s.set p (if m.owner pid = none then .stale else .ending))
    | _ => none
  | .removeStale p => if m.phase p = .stale then some (s.remove p .passed) else none
  | .fork p pid =>
    if m.phase p = .passed ∧ m.daemon p ∧ 0 < pid ∧ m.owner pid = none then
      some { s with processes := m.fork p pid }
    else none
  | .foreground p =>
    if m.phase p = .passed ∧ !m.daemon p then some (s.set p .ready) else none
  | .openPid p => if m.phase p = .forked then some (s.truncate p) else none
  | .openFails p => if m.phase p = .forked then some (s.set p .ending) else none
  | .writePid p =>
    match m.phase p with
    | .opened inode => some (s.write p inode)
    | _ => none
  | .openDevices p any =>
    if m.phase p = .ready then some (s.set p (if any then .devices else .stopping)) else none
  | .startControl p ok =>
    -- the old socket is unlinked first
    if m.phase p = .devices then
      some { s.set p .running with socket := if ok then some p else none }
    else none
  | .stopControl p =>
    if m.phase p = .running then some { s.set p .stopping with socket := none } else none
  | .removePid p => if m.phase p = .stopping then some (s.remove p .ending) else none
  | .exit p => if m.phase p = .ending then some { s with processes := m.exit p } else none
  | .die p => if (m.phase p).live then some { s with processes := m.exit p } else none
  | .otherStarts pid =>
    if 0 < pid ∧ m.owner pid = none then
      some { s with processes := m.setOwner pid (some .other) }
    else none
  | .otherExits pid =>
    if m.owner pid = some .other then some { s with processes := m.setOwner pid none } else none

inductive Stepped (s : State) : Action → State → Prop where
  | launch {p pid : ℕ} {daemon : Bool} : s.processes.phase p = .absent →
      s.processes.owner pid = none →
      Stepped s (.launch p pid daemon) { s with processes := s.processes.launch p pid daemon }
  | readPid {p : ℕ} : s.processes.phase p = .starting →
      Stepped s (.readPid p) (s.set p (s.filePid.elim .passed .found))
  | kill {p pid : ℕ} : s.processes.phase p = .found pid → Stepped s (.kill p)
      (s.set p (if s.processes.owner pid = none then .stale else .ending))
  | removeStale {p : ℕ} : s.processes.phase p = .stale →
      Stepped s (.removeStale p) (s.remove p .passed)
  | fork {p pid : ℕ} : s.processes.phase p = .passed → s.processes.daemon p →
      s.processes.owner pid = none →
      Stepped s (.fork p pid) { s with processes := s.processes.fork p pid }
  | foreground {p : ℕ} : s.processes.phase p = .passed → s.processes.daemon p = false →
      Stepped s (.foreground p) (s.set p .ready)
  | openPid {p : ℕ} : s.processes.phase p = .forked → Stepped s (.openPid p) (s.truncate p)
  | openFails {p : ℕ} : s.processes.phase p = .forked → Stepped s (.openFails p) (s.set p .ending)
  | writePid {p inode : ℕ} : s.processes.phase p = .opened inode →
      Stepped s (.writePid p) (s.write p inode)
  | openDevices {p : ℕ} {any : Bool} : s.processes.phase p = .ready →
      Stepped s (.openDevices p any) (s.set p (if any then .devices else .stopping))
  | startControl {p : ℕ} {ok : Bool} : s.processes.phase p = .devices → Stepped s
      (.startControl p ok) { s.set p .running with socket := if ok then some p else none }
  | stopControl {p : ℕ} : s.processes.phase p = .running →
      Stepped s (.stopControl p) { s.set p .stopping with socket := none }
  | removePid {p : ℕ} : s.processes.phase p = .stopping →
      Stepped s (.removePid p) (s.remove p .ending)
  | exit {p : ℕ} : s.processes.phase p = .ending →
      Stepped s (.exit p) { s with processes := s.processes.exit p }
  | die {p : ℕ} : (s.processes.phase p).live →
      Stepped s (.die p) { s with processes := s.processes.exit p }
  | otherStarts {pid : ℕ} : s.processes.owner pid = none →
      Stepped s (.otherStarts pid) { s with processes := s.processes.setOwner pid (some .other) }
  | otherExits {pid : ℕ} : s.processes.owner pid = some .other →
      Stepped s (.otherExits pid) { s with processes := s.processes.setOwner pid none }

lemma stepped {s t : State} {a : Action} (h : step s a = some t) : Stepped s a t := by
  cases a with
  | launch p pid daemon =>
    obtain ⟨⟨hp, -, ho⟩, h⟩ := Option.ite_none_right_eq_some.mp h
    exact Option.some.inj h ▸ .launch hp ho
  | readPid p =>
    obtain ⟨hp, h⟩ := Option.ite_none_right_eq_some.mp h
    exact Option.some.inj h ▸ .readPid hp
  | kill p =>
    simp only [step] at h
    split at h
    · next hp => exact Option.some.inj h ▸ .kill hp
    · cases h
  | removeStale p =>
    obtain ⟨hp, h⟩ := Option.ite_none_right_eq_some.mp h
    exact Option.some.inj h ▸ .removeStale hp
  | fork p pid =>
    obtain ⟨⟨hp, hd, -, ho⟩, h⟩ := Option.ite_none_right_eq_some.mp h
    exact Option.some.inj h ▸ .fork hp hd ho
  | foreground p =>
    obtain ⟨⟨hp, hd⟩, h⟩ := Option.ite_none_right_eq_some.mp h
    exact Option.some.inj h ▸ .foreground hp (by simpa using hd)
  | openPid p =>
    obtain ⟨hp, h⟩ := Option.ite_none_right_eq_some.mp h
    exact Option.some.inj h ▸ .openPid hp
  | openFails p =>
    obtain ⟨hp, h⟩ := Option.ite_none_right_eq_some.mp h
    exact Option.some.inj h ▸ .openFails hp
  | writePid p =>
    simp only [step] at h
    split at h
    · next hp => exact Option.some.inj h ▸ .writePid hp
    · cases h
  | openDevices p any =>
    obtain ⟨hp, h⟩ := Option.ite_none_right_eq_some.mp h
    exact Option.some.inj h ▸ .openDevices hp
  | startControl p ok =>
    obtain ⟨hp, h⟩ := Option.ite_none_right_eq_some.mp h
    exact Option.some.inj h ▸ .startControl hp
  | stopControl p =>
    obtain ⟨hp, h⟩ := Option.ite_none_right_eq_some.mp h
    exact Option.some.inj h ▸ .stopControl hp
  | removePid p =>
    obtain ⟨hp, h⟩ := Option.ite_none_right_eq_some.mp h
    exact Option.some.inj h ▸ .removePid hp
  | exit p =>
    obtain ⟨hp, h⟩ := Option.ite_none_right_eq_some.mp h
    exact Option.some.inj h ▸ .exit hp
  | die p =>
    obtain ⟨hp, h⟩ := Option.ite_none_right_eq_some.mp h
    exact Option.some.inj h ▸ .die hp
  | otherStarts pid =>
    obtain ⟨⟨-, ho⟩, h⟩ := Option.ite_none_right_eq_some.mp h
    exact Option.some.inj h ▸ .otherStarts ho
  | otherExits pid =>
    obtain ⟨ho, h⟩ := Option.ite_none_right_eq_some.mp h
    exact Option.some.inj h ▸ .otherExits ho

end PointerForce.Daemon.PidFile
