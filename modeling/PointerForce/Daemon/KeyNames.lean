import PointerForce.Foundations.AssociationLists

/-! The table of key names of the mapper. The key-code constants belong to the kernel headers; of
them the mapper relies on each name having a code of its own. -/

namespace PointerForce.Daemon

open Foundations.AssociationLists

def keyNames : List String := [
  "KEY_A", "KEY_B", "KEY_C", "KEY_D", "KEY_E", "KEY_F", "KEY_G", "KEY_H", "KEY_I", "KEY_J",
  "KEY_K", "KEY_L", "KEY_M", "KEY_N", "KEY_O", "KEY_P", "KEY_Q", "KEY_R", "KEY_S", "KEY_T",
  "KEY_U", "KEY_V", "KEY_W", "KEY_X", "KEY_Y", "KEY_Z", "KEY_0", "KEY_1", "KEY_2", "KEY_3",
  "KEY_4", "KEY_5", "KEY_6", "KEY_7", "KEY_8", "KEY_9", "KEY_F1", "KEY_F2", "KEY_F3", "KEY_F4",
  "KEY_F5", "KEY_F6", "KEY_F7", "KEY_F8", "KEY_F9", "KEY_F10", "KEY_F11", "KEY_F12", "KEY_F13",
  "KEY_F14", "KEY_F15", "KEY_F16", "KEY_F17", "KEY_F18", "KEY_F19", "KEY_F20", "KEY_UP",
  "KEY_DOWN", "KEY_LEFT", "KEY_RIGHT", "KEY_HOME", "KEY_END", "KEY_PAGEUP", "KEY_PAGEDOWN",
  "KEY_INSERT", "KEY_DELETE", "KEY_ENTER", "KEY_SPACE", "KEY_TAB", "KEY_BACKSPACE", "KEY_ESC",
  "KEY_CAPSLOCK", "KEY_LEFTSHIFT", "KEY_RIGHTSHIFT", "KEY_LEFTCTRL", "KEY_RIGHTCTRL",
  "KEY_LEFTALT", "KEY_RIGHTALT", "KEY_LEFTMETA", "KEY_RIGHTMETA", "KEY_MUTE", "KEY_VOLUMEUP",
  "KEY_VOLUMEDOWN", "KEY_PLAYPAUSE", "KEY_NEXTSONG", "KEY_PREVIOUSSONG", "KEY_PRINT", "KEY_SYSRQ",
  "KEY_PAUSE", "KEY_SCROLLLOCK", "KEY_NUMLOCK", "KEY_KP0", "KEY_KP1", "KEY_KP2", "KEY_KP3",
  "KEY_KP4", "KEY_KP5", "KEY_KP6", "KEY_KP7", "KEY_KP8", "KEY_KP9", "KEY_KPENTER", "KEY_KPPLUS",
  "KEY_KPMINUS", "KEY_KPASTERISK", "KEY_KPSLASH", "KEY_KPDOT", "BTN_LEFT", "BTN_RIGHT",
  "BTN_MIDDLE", "BTN_SIDE", "BTN_EXTRA", "BTN_FORWARD", "BTN_BACK", "BTN_SOUTH", "BTN_EAST",
  "BTN_NORTH", "BTN_WEST", "BTN_TL", "BTN_TR", "BTN_TL2", "BTN_TR2", "BTN_START", "BTN_SELECT",
  "BTN_THUMBL", "BTN_THUMBR", "BTN_MODE"]

structure KeyCodes where
  code : String → ℕ
  distinct : (keyNames.map code).Nodup

variable (K : KeyCodes)

def nameTable : List (String × ℤ) := keyNames.map fun name => (name, (K.code name : ℤ))

def codeTable : List (ℤ × String) := (nameTable K).map Prod.swap

def nameToCode (name : String) : ℤ := ((nameTable K).lookup name).getD (-1)

def codeToName (code : ℤ) : String :=
  ((codeTable K).lookup code).getD s!"KEY_UNKNOWN({code})"

lemma nameToCode_eq (name : String) :
    nameToCode K name = if name ∈ keyNames then (K.code name : ℤ) else -1 := by
  split
  · next h => simp only [nameToCode, nameTable, List.lookup_graph _ h, Option.getD_some]
  · next h => simp only [nameToCode, nameTable, lookup_graph_none _ h, Option.getD_none]

lemma nameToCode_nonneg_iff {name : String} : 0 ≤ nameToCode K name ↔ name ∈ keyNames := by
  rw [nameToCode_eq]
  split <;> simp [*]

lemma nameToCode_injOn {a b : String} (ha : 0 ≤ nameToCode K a)
    (h : nameToCode K a = nameToCode K b) : a = b := by
  have hb : 0 ≤ nameToCode K b := h ▸ ha
  rw [nameToCode_nonneg_iff] at ha hb
  simp only [nameToCode_eq, if_pos ha, if_pos hb, Nat.cast_inj] at h
  exact List.inj_on_of_nodup_map K.distinct ha hb h

lemma codeToName_code {name : String} (h : name ∈ keyNames) :
    codeToName K (K.code name) = name := by
  have hm : ((K.code name : ℤ), name) ∈ codeTable K := by
    simpa [codeTable, nameTable] using h
  have hn : ((codeTable K).map Prod.fst).Nodup := by
    have hc := K.distinct.map (f := fun n : ℕ => (n : ℤ)) Nat.cast_injective
    simpa [codeTable, nameTable, Function.comp_def] using hc
  rw [codeToName, lookup_of_mem hn hm, Option.getD_some]

/-- The constants as `linux/input-event-codes.h` defines them, in the order of the table. -/
def headerCodes : List ℕ := [
  30, 48, 46, 32, 18, 33, 34, 35, 23, 36, 37, 38, 50, 49, 24, 25, 16, 19, 31, 20, 22, 47, 17, 45,
  21, 44, 11, 2, 3, 4, 5, 6, 7, 8, 9, 10, 59, 60, 61, 62, 63, 64, 65, 66, 67, 68, 87, 88, 183,
  184, 185, 186, 187, 188, 189, 190, 103, 108, 105, 106, 102, 107, 104, 109, 110, 111, 28, 57, 15,
  14, 1, 58, 42, 54, 29, 97, 56, 100, 125, 126, 113, 115, 114, 164, 163, 165, 210, 99, 119, 70,
  69, 82, 79, 80, 81, 75, 76, 77, 71, 72, 73, 96, 78, 74, 55, 98, 83, 272, 273, 274, 275, 276,
  277, 278, 304, 305, 307, 308, 310, 311, 312, 313, 315, 314, 317, 318, 316]

def spelling (name : String) : ℕ := name.toList.foldl (fun n c => n * 256 + c.toNat) 0

lemma keyNames_nodup : keyNames.Nodup := by
  have h : (keyNames.map spelling).Nodup := by decide +kernel
  exact h.of_map spelling

def inputEventCodes : KeyCodes where
  code name := ((keyNames.zip headerCodes).lookup name).getD 0
  distinct := by
    rw [map_lookup_zip 0 keyNames_nodup (by decide +kernel)]
    decide +kernel

end PointerForce.Daemon
