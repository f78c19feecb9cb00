import PointerForce.Bridge.EditableConfigs
import PointerForce.Daemon.ControlSocket
import PointerForce.Daemon.Startup

/-! The socket that the bridge connects to, and the one that a daemon started with the same file
binds. Each side reads the path out of the file with a parser and a default of its own. -/

namespace PointerForce.Bridge.SocketAgreement

open Foundations Daemon Daemon.ConfigLoader Daemon.Startup Daemon.ControlSocket EditableConfigs

def kDefaultSocketPath : String := "/tmp/pointerforce.sock"

variable (C : Codec) (K : KeyCodes)

def resolveSocketPath (path : String) (file : Option Bytes) : String :=
  match ConfigStore.read C path file with
  | .ok cfg =>
    (((cfg.field "control_socket").bind Json.string?).filter (· ≠ "")).getD kDefaultSocketPath
  | .error _ => kDefaultSocketPath

section Agreement

variable {C K} {cl : CommandLine} {text : Bytes} {root : Json} {g : Config}

lemma start_ok (h : (start C K cl (some text)).run {} = .ok true g) :
    ∃ root, C.reader text = some root ∧ Loadable K root ∧
      g = cl.override (installed K cl.configPath root {}) := by
  cases hr : C.reader text with
  | none =>
    have hfile : (some text).bind C.reader = none := hr
    simp only [start, EStateM.run_bind, EStateM.run_modify, load_unparsed hfile] at h
    cases h
  | some root =>
    have hfile : (some text).bind C.reader = some root := hr
    by_cases hl : Loadable K root
    · rw [start_run hfile hl] at h
      exact ⟨root, rfl, hl, (EStateM.Result.ok.inj h).2.symm⟩
    · simp only [start, EStateM.run_bind, EStateM.run_modify] at h
      rcases load_not_loadable hfile hl { configPath := cl.configPath } with he | ⟨e, he⟩
      · rw [he] at h
        cases h
      · rw [he] at h
        cases h

lemma controlSocket_installed : (cl.override (installed K cl.configPath root {})).controlSocket =
    ((root.field "control_socket").bind Json.string?).getD defaultControlSocket := by
  rw [override_eq]
  rfl

lemma resolve_eq (path : String) (h : C.charReader text = some root) (ho : root.isObject) :
    resolveSocketPath C path (some text) =
      (((root.field "control_socket").bind Json.string?).filter (· ≠ "")).getD
        kDefaultSocketPath := by
  simp only [resolveSocketPath, ConfigStore.read, h, ho, if_true]

lemma defaults_agree_iff (path : Option String) :
    (path.filter (· ≠ "")).getD kDefaultSocketPath = path.getD defaultControlSocket ↔
      path ≠ some "" := by
  cases path with
  | none => simp [kDefaultSocketPath, defaultControlSocket]
  | some path =>
    by_cases hp : path = ""
    · have hnone : (some path).filter (· ≠ "") = none := by simp [hp]
      rw [hnone, hp]
      simp [kDefaultSocketPath]
    · simp [hp, Option.filter_some]

end Agreement

/-- The bridge and the started daemon use the same path exactly if the file does not set it to the
empty string. Both parsers are taken to read the document as the same value. -/
theorem same_socket_iff (cl : CommandLine) (text : Bytes) (g : Config) (result : StartResult)
    (hparsers : ∀ root, C.reader text = some root → C.charReader text = some root)
    (hstart : (start C K cl (some text)).run {} = .ok true g) :
    (ControlSocket.step C K { config := g } (.start result)).bind State.bound =
        (if result.binds then some (sunPath g.controlSocket) else none) ∧
      (resolveSocketPath C cl.configPath (some text) = g.controlSocket ↔
        ∀ root, C.reader text = some root → root.field "control_socket" ≠ some (.string "")) := by
  obtain ⟨root, hread, hl, rfl⟩ := start_ok hstart
  refine ⟨rfl, ?_⟩
  have hempty : (root.field "control_socket").bind Json.string? = some "" ↔
      root.field "control_socket" = some (.string "") := by
    cases root.field "control_socket" with
    | none => simp
    | some v => cases v <;> simp [Json.string?]
  rw [resolve_eq cl.configPath (hparsers root hread) (isObject_of_loadable hl), controlSocket_installed,
    defaults_agree_iff, ne_eq, hempty]
  simp [hread]

def mouseBlock : Json :=
  .object [("id", .string "gaming_mouse"), ("match", .object [("name", .string "BT5.1 Mouse")])]

def mouseWithSocket (socket : Json) : Json :=
  .object [("control_socket", socket), ("devices", .array [mouseBlock])]

def socketText (socket : String) : Bytes :=
  utf8 ("\x7b\"control_socket\":" ++ socket ++ ",\"devices\":[\x7b\"id\":\"gaming_mouse\"," ++
    "\"match\":\x7b\"name\":\"BT5.1 Mouse\"\x7d\x7d]\x7d")

def socketCodec (text : Bytes) (socket : Json) : Codec := .ofTable [(text, mouseWithSocket socket)]

lemma reader_socketCodec (text : Bytes) (socket : Json) :
    (socketCodec text socket).reader text = some (mouseWithSocket socket) := by
  simp [socketCodec, Codec.ofTable]

lemma mouseWithSocket_starts (text : Bytes) (socket : Json) :
    (start (socketCodec text socket) inputEventCodes {} (some text)).run {} =
      .ok true (CommandLine.override {} (installed inputEventCodes defaultConfigFile
        (mouseWithSocket socket) {})) :=
  start_run (reader_socketCodec text socket) ⟨[mouseBlock], rfl, by decide⟩

theorem number_ignored_by_both : ∃ g,
    (start (socketCodec (socketText "0") (.int 0)) inputEventCodes {} (some (socketText "0"))).run {} =
      .ok true g ∧
    (resolveSocketPath (socketCodec (socketText "0") (.int 0)) defaultConfigFile
        (some (socketText "0")) = g.controlSocket ↔
      ∀ root, (socketCodec (socketText "0") (.int 0)).reader (socketText "0") = some root →
        root.field "control_socket" ≠ some (.string "")) :=
  ⟨_, mouseWithSocket_starts _ _, (same_socket_iff _ inputEventCodes {} (socketText "0") _ .listens
    (fun _ h => h) (mouseWithSocket_starts _ _)).2⟩

theorem empty_path_not_shared : ∃ g,
    (start (socketCodec (socketText "\"\"") (.string "")) inputEventCodes {}
      (some (socketText "\"\""))).run {} = .ok true g ∧
    resolveSocketPath (socketCodec (socketText "\"\"") (.string "")) defaultConfigFile
      (some (socketText "\"\"")) ≠ g.controlSocket := by
  refine ⟨_, mouseWithSocket_starts _ _, ?_⟩
  have hread := reader_socketCodec (socketText "\"\"") (.string "")
  rw [resolve_eq defaultConfigFile hread rfl, controlSocket_installed]
  decide

end PointerForce.Bridge.SocketAgreement
