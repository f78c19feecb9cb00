import PointerForce.Daemon.ConfigLoader

/-! The command line, and the global configuration as the daemon starts with it and reloads it. -/

namespace PointerForce.Daemon.Startup

open Foundations Foundations.Faults ConfigLoader

structure CommandLine where
  configPath : String := defaultConfigFile
  daemon : Bool := false
  foreground : Bool := false
  deriving DecidableEq, Repr

inductive Parsed where
  | help
  | version
  | unknownOption (option : String)
  | run (cl : CommandLine)
  deriving DecidableEq, Repr

def parseArgs (cl : CommandLine) : List String → Parsed
  | [] => .run cl
  | "-h" :: _ => .help
  | "-v" :: _ => .version
  | "-d" :: args => parseArgs { cl with daemon := true } args
  | "-f" :: args => parseArgs { cl with foreground := true } args
  | "-c" :: path :: args => parseArgs { cl with configPath := path } args
  | option :: _ => .unknownOption option

def CommandLine.args (cl : CommandLine) : List String :=
  (if cl.daemon then ["-d"] else []) ++ (if cl.foreground then ["-f"] else []) ++
    ["-c", cl.configPath]

lemma parseArgs_args (cl : CommandLine) : parseArgs {} cl.args = .run cl := by
  rcases cl with ⟨path, daemon, foreground⟩
  cases daemon <;> cases foreground <;> simp [CommandLine.args, parseArgs]

def CommandLine.override (cl : CommandLine) (g : Config) : Config :=
  let g := if cl.daemon then { g with daemonMode := true } else g
  if cl.foreground then { g with daemonMode := false, debug := true } else g

variable (C : Codec) (K : KeyCodes)

def start (cl : CommandLine) (file : Option Bytes) : Loader Bool := do
  modify fun g => { g with configPath := cl.configPath }
  if ← load C K cl.configPath file then
    modify cl.override
    return true
  else return false

def reload (file : Option Bytes) : Loader Bool := do
  load C K (← get).configPath file

def history (cl : CommandLine) (first : Option Bytes) (others : List (Option Bytes)) :
    Loader Unit := do
  let _ ← start C K cl first
  forM others fun file => do
    let _ ← reload C K file

def CommandLine.forcedDaemon (cl : CommandLine) : Option Bool :=
  if cl.foreground then some false else if cl.daemon then some true else none

def CommandLine.forcedDebug (cl : CommandLine) : Option Bool :=
  if cl.foreground then some true else none

lemma override_eq (cl : CommandLine) (g : Config) : cl.override g =
    { g with daemonMode := cl.forcedDaemon.getD g.daemonMode
             debug := cl.forcedDebug.getD g.debug } := by
  rcases cl with ⟨path, daemon, foreground⟩
  cases daemon <;> cases foreground <;> rfl

variable {C K}

lemma start_run {cl : CommandLine} {file : Option Bytes} {root : Json}
    (h : file.bind C.reader = some root) (hl : Loadable K root) :
    (start C K cl file).run {} = .ok true (cl.override (installed K cl.configPath root {})) := by
  simp only [start, EStateM.run_bind, EStateM.run_modify, load_loadable h hl]
  rfl

lemma reload_run {file : Option Bytes} {root : Json} (h : file.bind C.reader = some root)
    (hl : Loadable K root) (g : Config) :
    (reload C K file).run g = .ok true (installed K g.configPath root g) := by
  simp only [reload, EStateM.run_bind, EStateM.run_get, load_loadable h hl]

end PointerForce.Daemon.Startup
