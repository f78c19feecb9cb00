import PointerForce.Daemon.Configuration
import Mathlib.Data.List.DropRight

/-! Which event nodes the device manager opens, and under which block of the configuration. -/

namespace PointerForce.Daemon.DeviceManager

def inputDir : String := "/dev/input"

/-- What the daemon finds of the input devices: the names in the directory of the nodes, the first
line of each sysfs file that can be read, and the nodes that can be opened. -/
structure Machine where
  listing : List String
  sysfs : String → Option String
  opens : String → Bool

structure SysfsInfo where
  name : String
  vendorProduct : String
  deriving DecidableEq, Repr

structure Entry where
  cfg : DeviceConfig
  path : String

variable (m : Machine)

def isTrailing (c : Char) : Bool := c == '\n' || c == '\r' || c == ' ' || c == '\t'

def sysfsRead (path : String) : String :=
  String.ofList (((m.sysfs path).getD "").toList.rdropWhile isTrailing)

def nodeName (eventPath : String) : String :=
  String.ofList (eventPath.toList.rtakeWhile (· ≠ '/'))

def probeSysfs (eventPath : String) : SysfsInfo :=
  let base := "/sys/class/input/" ++ nodeName eventPath ++ "/device/"
  let vendor := (sysfsRead m (base ++ "id/vendor")).toLower
  let product := (sysfsRead m (base ++ "id/product")).toLower
  { name := sysfsRead m (base ++ "name")
    vendorProduct := if vendor ≠ "" ∧ product ≠ "" then vendor ++ ":" ++ product else "" }

def sysfsMatches (info : SysfsInfo) (eventPath : String) (criteria : DeviceMatch) : Bool :=
  if criteria.path ≠ "" then eventPath == criteria.path
  else if criteria.vendorProduct ≠ "" ∧ info.vendorProduct ≠ "" ∧
      info.vendorProduct = criteria.vendorProduct then true
  else criteria.nameContains ≠ "" && info.name ≠ "" &&
    decide (criteria.nameContains.toList <:+: info.name.toList)

def candidates : List String :=
  ((m.listing.filter fun fname => "event".toList.isPrefixOf fname.toList).map fun fname =>
    inputDir ++ "/" ++ fname).mergeSort fun a b => decide (a ≤ b)

def findMatch (info : SysfsInfo) (path : String) (devices : List DeviceConfig)
    (matched : List Bool) : Option ℕ :=
  (devices.zip matched).findIdx? fun (dc, taken) => !taken && sysfsMatches info path dc.criteria

def openNode (devices : List DeviceConfig) (s : List Entry × List Bool) (path : String) :
    List Entry × List Bool :=
  match findMatch (probeSysfs m path) path devices s.2 with
  | none => s
  | some i =>
    match devices[i]? with
    | none => s
    | some cfg => if m.opens path then (s.1 ++ [⟨cfg, path⟩], s.2.set i true) else s

def openAll (devices : List DeviceConfig) : List Entry :=
  ((candidates m).foldl (openNode m devices) ([], devices.map fun _ => false)).1

def blockOf (dc : DeviceConfig) : String × DeviceMatch := (dc.id, dc.criteria)

def Entry.place (e : Entry) : String × String := (e.cfg.id, e.path)

section SameBlocks

variable {devices devices' : List DeviceConfig}

lemma findMatch_congr (h : devices.map blockOf = devices'.map blockOf)
    (info : SysfsInfo) (path : String) (matched : List Bool) :
    findMatch info path devices matched = findMatch info path devices' matched := by
  have hz : ∀ ds : List DeviceConfig, findMatch info path ds matched =
      ((ds.map blockOf).zip matched).findIdx? fun (b, taken) =>
        !taken && sysfsMatches info path b.2 := by
    intro ds
    rw [List.zip_map_left, List.findIdx?_map]
    rfl
  rw [hz, hz, h]

lemma openNode_congr (h : devices.map blockOf = devices'.map blockOf)
    (path : String) {s s' : List Entry × List Bool}
    (hs : s.1.map Entry.place = s'.1.map Entry.place ∧ s.2 = s'.2) :
    (openNode m devices s path).1.map Entry.place =
        (openNode m devices' s' path).1.map Entry.place ∧
      (openNode m devices s path).2 = (openNode m devices' s' path).2 := by
  obtain ⟨entries, matched⟩ := s
  obtain ⟨entries', matched'⟩ := s'
  obtain ⟨he, rfl⟩ : entries.map Entry.place = entries'.map Entry.place ∧ matched = matched' := hs
  rw [openNode, openNode, ← findMatch_congr h]
  cases findMatch (probeSysfs m path) path devices matched with
  | none => exact ⟨he, rfl⟩
  | some i =>
    have hi : devices[i]?.map blockOf = devices'[i]?.map blockOf := by
      rw [← List.getElem?_map, ← List.getElem?_map, h]
    cases hd : devices[i]? with
    | none =>
      have hd' : devices'[i]? = none := by simpa [hd, eq_comm] using hi
      simp only [hd, hd']
      exact ⟨he, trivial⟩
    | some cfg =>
      obtain ⟨cfg', hd', hb⟩ : ∃ cfg', devices'[i]? = some cfg' ∧ blockOf cfg' = blockOf cfg := by
        rw [hd, Option.map_some] at hi
        exact Option.map_eq_some_iff.mp hi.symm
      have hid : cfg'.id = cfg.id := congrArg Prod.fst hb
      simp only [hd, hd']
      split
      · exact ⟨by simp [he, Entry.place, hid], rfl⟩
      · exact ⟨he, rfl⟩

lemma openAll_places (h : devices.map blockOf = devices'.map blockOf) :
    (openAll m devices).map Entry.place = (openAll m devices').map Entry.place := by
  have hn : devices.map (fun _ => false) = devices'.map fun _ => false := by
    simpa using congrArg (List.map fun _ => false) h
  have hrel := List.foldl_rel (l := candidates m) (f := openNode m devices)
    (g := openNode m devices') (a := ([], devices.map fun _ => false))
    (b := ([], devices'.map fun _ => false))
    (r := fun s s' => s.1.map Entry.place = s'.1.map Entry.place ∧ s.2 = s'.2)
    ⟨rfl, hn⟩ fun path _ s s' hs => openNode_congr m h path hs
  exact hrel.1

end SameBlocks

end PointerForce.Daemon.DeviceManager
