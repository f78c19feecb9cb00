import PointerForce.Daemon.ConfigLoader

/-! What a reload that fails leaves behind. The multiplexer and the control server go on with the
global configuration as the loader has left it. -/

namespace PointerForce.Daemon.FailedReload

open Foundations ConfigLoader

def KeepsConfig (g : Config) : EStateM.Result LogicError Config Bool → Prop
  | .ok true _ => True
  | .ok false g' | .error _ g' => g' = g

def OptionsAgree (o : FileOptions) (g : Config) : Prop :=
  (∀ b, o.daemon = some b → g.daemonMode = b) ∧ (∀ b, o.debug = some b → g.debug = b) ∧
    ∀ s, o.controlSocket = some s → g.controlSocket = s

/-- The configuration has the path and the options already, and its devices are those of the
document's blocks before the first that raises: none at all if the array is missing. -/
def AlreadyInstalled (K : KeyCodes) (path : String) (root : Json) (g : Config) : Prop :=
  g.configPath = path ∧ OptionsAgree (optionsOf root) g ∧
    g.devices = keptDevices K (((devicesOf root).getD []).takeWhile (Readable K ·))

variable (C : Codec) (K : KeyCodes)

def Harmless (path : String) (file : Option Bytes) (g : Config) : Prop :=
  ∀ root, file.bind C.reader = some root → Loadable K root ∨ AlreadyInstalled K path root g

lemma leftBehind_eq_iff (path : String) (root : Json) (g : Config) :
    leftBehind K path root g = g ↔ AlreadyInstalled K path root g := by
  simp only [leftBehind, cleared, AlreadyInstalled]
  generalize optionsOf root = o
  generalize keptDevices K _ = devices
  rcases o with ⟨daemon, debug, controlSocket⟩
  cases g
  cases daemon <;> cases debug <;> cases controlSocket <;>
    simp [FileOptions.apply, OptionsAgree, eq_comm] <;> tauto

lemma not_loadable_keeps_iff {path : String} {file : Option Bytes} {root : Json}
    (h : file.bind C.reader = some root) (hl : ¬ Loadable K root) (g : Config) :
    KeepsConfig g ((load C K path file).run g) ↔ AlreadyInstalled K path root g := by
  rw [← leftBehind_eq_iff]
  rcases load_not_loadable h hl g with he | ⟨e, he⟩ <;> rw [he] <;> exact Iff.rfl

theorem keeps_config_iff (path : String) (file : Option Bytes) (g : Config) :
    KeepsConfig g ((load C K path file).run g) ↔ Harmless C K path file g := by
  cases h : file.bind C.reader with
  | none =>
    rw [load_unparsed h]
    simp [KeepsConfig, Harmless, h]
  | some root =>
    by_cases hl : Loadable K root
    · rw [load_loadable h hl]
      simp [KeepsConfig, Harmless, h, hl]
    · rw [not_loadable_keeps_iff C K h hl]
      simp [Harmless, h, hl]

def emptyObject : Bytes := [0x7b, 0x7d]

def oneMouse : Config where
  devices := [{ id := "gaming_mouse", criteria := { nameContains := "BT5.1 Mouse" } }]

theorem missing_devices_clears_config : ¬ KeepsConfig oneMouse
    ((load (.ofTable [(emptyObject, .object [])]) inputEventCodes "config/pointerforce.json"
      (some emptyObject)).run oneMouse) := by
  have h : (some emptyObject).bind (Codec.ofTable [(emptyObject, .object [])]).reader =
      some (.object []) := rfl
  rw [load_without_devices h (Json.indexable_object []) rfl]
  intro he
  cases congrArg Config.devices he

end PointerForce.Daemon.FailedReload
