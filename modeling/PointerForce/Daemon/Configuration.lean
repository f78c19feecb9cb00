import PointerForce.Foundations.Json
import PointerForce.Daemon.KeyNames

/-! The shared types of the daemon: its configuration and the events of its devices. -/

namespace PointerForce.Daemon

def defaultControlSocket : String := "/tmp/pointerforce.sock"
def defaultConfigFile : String := "config/pointerforce.json"

abbrev Bindings := Std.ExtTreeMap ℤ String

structure DeviceMatch where
  nameContains : String := ""
  vendorProduct : String := ""
  path : String := ""
  deriving DecidableEq, Repr

structure DeviceConfig where
  id : String
  criteria : DeviceMatch
  grab : Bool := false
  bindings : Bindings := ∅

@[ext] structure Config where
  devices : List DeviceConfig := []
  daemonMode : Bool := false
  debug : Bool := false
  controlSocket : String := defaultControlSocket
  configPath : String := defaultConfigFile

structure InputEvent where
  deviceId : String
  devicePath : String
  code : ℤ
  value : ℤ
  timestamp : ℕ
  deriving DecidableEq, Repr

def keyPress : ℤ := 1

def DeviceMatch.isEmpty (m : DeviceMatch) : Bool :=
  m.nameContains == "" && m.vendorProduct == "" && m.path == ""

end PointerForce.Daemon
