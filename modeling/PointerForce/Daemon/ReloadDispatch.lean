import PointerForce.Daemon.DeviceManager
import PointerForce.Daemon.EventLoop
import PointerForce.Daemon.ConfigMeaning
import PointerForce.Daemon.Restart

/-! The command that a press runs, after a reload and after a fresh start with the same file. The
nodes stay open under the ids of the blocks that opened them. -/

namespace PointerForce.Daemon.ReloadDispatch

open Foundations ConfigLoader Mapper Startup Restart ConfigMeaning DeviceManager EventLoop

structure Running where
  config : Config
  table : Table
  entries : List DeviceManager.Entry

def boot (m : Machine) (config : Config) : Running where
  config := config
  table := init ∅ config
  entries := openAll m config.devices

def Running.reloaded (r : Running) (config : Config) : Running :=
  { r with config, table := init r.table config }

def Running.entryAt (r : Running) (path : String) : Option DeviceManager.Entry :=
  r.entries.find? fun e => e.path == path

def Running.idAt (r : Running) (path : String) : Option String :=
  (r.entryAt path).map fun e => e.cfg.id

def eventOf (e : DeviceManager.Entry) (code value : ℤ) (now : ℕ) : InputEvent where
  deviceId := e.cfg.id
  devicePath := e.path
  code := code
  value := value
  timestamp := now

def Running.pressed (r : Running) (path : String) (code : ℤ) : Option String :=
  (r.entryAt path).bind fun e =>
    let cmd := commandIn r.table (eventOf e code keyPress 0)
    if cmd = "" then none else some cmd

variable (C : Codec) (K : KeyCodes)

def DispatchesAlike (r r' : Running) (node : String → Prop) : Prop :=
  ∀ path, node path → (r.idAt path).isSome → (r'.idAt path).isSome →
    ∀ code, r.pressed path code = r'.pressed path code

section Dispatch

variable {C K} {r r' : Running}

lemma getD_eq_filter (o : Option String) :
    (if o.getD "" = "" then none else some (o.getD "")) = o.filter (· ≠ "") := by
  cases o with
  | none => rfl
  | some cmd => by_cases h : cmd = "" <;> simp [h, Option.filter_some]

lemma pressed_eq (r : Running) (path : String) (code : ℤ) : r.pressed path code =
    (r.idAt path).bind fun id => (lookup r.table id code).filter (· ≠ "") := by
  rw [Running.pressed, Running.idAt]
  cases r.entryAt path with
  | none => rfl
  | some e => exact getD_eq_filter (lookup r.table e.cfg.id code)

lemma dispatches_alike (hl : ∀ id code, lookup r.table id code = lookup r'.table id code) :
    DispatchesAlike r r' fun path => r.idAt path = r'.idAt path := by
  intro path hid _ _ code
  rw [pressed_eq, pressed_eq, hid]
  cases r'.idAt path with
  | none => rfl
  | some id => simp only [Option.bind_some, hl]

lemma idAt_of_places (h : r.entries.map Entry.place = r'.entries.map Entry.place) (path : String) :
    r.idAt path = r'.idAt path := by
  have hp : ∀ s : Running, s.idAt path =
      ((s.entries.map Entry.place).find? fun p => p.2 == path).map Prod.fst := by
    intro s
    rw [Running.idAt, Running.entryAt, List.find?_map, Option.map_map]
    rfl
  rw [hp, hp, h]

lemma boot_alike (m : Machine) {g₁ g₂ g : Config} (hd : g₂.devices = g.devices) :
    DispatchesAlike ((boot m g₁).reloaded g₂) (boot m g)
        (fun path => ((boot m g₁).reloaded g₂).idAt path = (boot m g).idAt path) ∧
      (g₁.devices.map blockOf = g₂.devices.map blockOf →
        DispatchesAlike ((boot m g₁).reloaded g₂) (boot m g) fun _ => True) := by
  have hl : ∀ id code, lookup ((boot m g₁).reloaded g₂).table id code =
      lookup (boot m g).table id code := by
    intro id code
    simp only [Running.reloaded, boot, init, hd]
  have halike := dispatches_alike hl
  refine ⟨halike, fun hb path _ => halike path ?_⟩
  apply idAt_of_places
  exact openAll_places m (hb.trans (congrArg (List.map blockOf) hd))

end Dispatch

theorem dispatch_after_reload (m : Machine) (cl cl' : CommandLine) (f₁ f₂ : Bytes)
    (h₁ : Loads C K f₁) (h₂ : Loads C K f₂) :
    ∃ g₁ g₂ g, (start C K cl (some f₁)).run {} = .ok true g₁ ∧
      (reload C K (some f₂)).run g₁ = .ok true g₂ ∧
      (start C K cl' (some f₂)).run {} = .ok true g ∧
      DispatchesAlike ((boot m g₁).reloaded g₂) (boot m g)
        (fun path => ((boot m g₁).reloaded g₂).idAt path = (boot m g).idAt path) ∧
      (g₁.devices.map blockOf = g₂.devices.map blockOf →
        DispatchesAlike ((boot m g₁).reloaded g₂) (boot m g) fun _ => True) := by
  obtain ⟨hr₁, hl₁⟩ := h₁.bind
  obtain ⟨hr₂, hl₂⟩ := h₂.bind
  refine ⟨_, _, _, start_run hr₁ hl₁, reload_run hr₂ hl₂ _, start_run hr₂ hl₂, boot_alike m ?_⟩
  exact (congrArg Config.devices (started_eq cl' (rootOf C f₂))).symm

def padBlockAs (id cmd : String) : Json :=
  .object [("id", .string id), ("path", .string "/dev/input/event3"),
    ("bindings", .object [("KEY_A", .string cmd)])]

def padDocument (id cmd : String) : Json := .object [("devices", .array [padBlockAs id cmd])]

def padFile (id cmd : String) : Bytes :=
  utf8 ("\x7b\"devices\":[\x7b\"id\":\"" ++ id ++ "\",\"path\":\"/dev/input/event3\"," ++
    "\"bindings\":\x7b\"KEY_A\":\"" ++ cmd ++ "\"\x7d\x7d]\x7d")

def padCodec : Codec :=
  .ofTable [(padFile "pad" "firefox", padDocument "pad" "firefox"),
    (padFile "pad" "gimp", padDocument "pad" "gimp"),
    (padFile "macro_pad" "firefox", padDocument "macro_pad" "firefox")]

def padMachine : Machine where
  listing := ["event3", "mice"]
  sysfs _ := none
  opens _ := true

lemma padMachine_candidates : candidates padMachine = ["/dev/input/event3"] := by
  have hf : (padMachine.listing.filter fun fname => "event".toList.isPrefixOf fname.toList).map
      (fun fname => inputDir ++ "/" ++ fname) = ["/dev/input/event3"] := by decide
  rw [candidates, hf, List.mergeSort_singleton]

section Pad

variable {id cmd : String}

lemma padFile_loads (hr : padCodec.reader (padFile id cmd) = some (padDocument id cmd)) :
    Loads padCodec inputEventCodes (padFile id cmd) := by
  refine ⟨_, hr, _, rfl, ?_⟩
  rw [List.forall_mem_singleton]
  exact readable_of_strings inputEventCodes rfl (List.forall_mem_singleton.mpr rfl)

lemma pad_idAt {g : Config} (hg : g.devices = documentDevices inputEventCodes (padDocument id cmd)) :
    (boot padMachine g).idAt "/dev/input/event3" = some id := by
  rw [boot, hg, openAll, padMachine_candidates]
  rfl

lemma pad_lookup {g : Config} (hg : g.devices = documentDevices inputEventCodes (padDocument id cmd))
    (table : Table) (deviceId : String) (code : ℤ) : lookup (init table g) deviceId code =
      (own inputEventCodes [padBlockAs id cmd] deviceId code).or
        (own inputEventCodes [padBlockAs id cmd] wildcard code) := by
  have hs : ∀ dev ∈ [padBlockAs id cmd], CommandsAreStrings dev := by
    rw [List.forall_mem_singleton]
    exact List.forall_mem_singleton.mpr rfl
  have hd : documentDevices inputEventCodes (padDocument id cmd) =
      keptDevices inputEventCodes [padBlockAs id cmd] := rfl
  rw [lookup_eq, flat_init, flat_init, hg, hd]
  simp only [lastBinding_keptDevices inputEventCodes hs]

lemma renamed_dispatches_differently {g₁ g₂ g : Config}
    (h₁ : g₁.devices = documentDevices inputEventCodes (padDocument "pad" "firefox"))
    (h₂ : g₂.devices = documentDevices inputEventCodes (padDocument "macro_pad" "firefox"))
    (h : g.devices = documentDevices inputEventCodes (padDocument "macro_pad" "firefox")) :
    ¬ DispatchesAlike ((boot padMachine g₁).reloaded g₂) (boot padMachine g) fun _ => True := by
  intro ha
  have hold : ((boot padMachine g₁).reloaded g₂).idAt "/dev/input/event3" = some "pad" := pad_idAt h₁
  have hnew : (boot padMachine g).idAt "/dev/input/event3" = some "macro_pad" := pad_idAt h
  have hp := ha "/dev/input/event3" trivial (Option.isSome_of_eq_some hold)
    (Option.isSome_of_eq_some hnew) 30
  have hnone : lookup ((boot padMachine g₁).reloaded g₂).table "pad" 30 = none :=
    (pad_lookup h₂ ∅ "pad" 30).trans (by decide)
  have hsome : lookup (boot padMachine g).table "macro_pad" 30 = some "firefox" :=
    (pad_lookup h ∅ "macro_pad" 30).trans (by decide)
  rw [pressed_eq, pressed_eq, hold, hnew, Option.bind_some, Option.bind_some, hnone, hsome] at hp
  cases hp

end Pad

theorem command_changed_in_place : ∃ g₁ g₂ g,
    (start padCodec inputEventCodes {} (some (padFile "pad" "firefox"))).run {} = .ok true g₁ ∧
    (reload padCodec inputEventCodes (some (padFile "pad" "gimp"))).run g₁ = .ok true g₂ ∧
    (start padCodec inputEventCodes {} (some (padFile "pad" "gimp"))).run {} = .ok true g ∧
    DispatchesAlike ((boot padMachine g₁).reloaded g₂) (boot padMachine g) fun path =>
      ((boot padMachine g₁).reloaded g₂).idAt path = (boot padMachine g).idAt path := by
  obtain ⟨g₁, g₂, g, h₁, h₂, h, ha, -⟩ := dispatch_after_reload padCodec inputEventCodes padMachine
    {} {} (padFile "pad" "firefox") (padFile "pad" "gimp") (padFile_loads rfl) (padFile_loads rfl)
  exact ⟨g₁, g₂, g, h₁, h₂, h, ha⟩

theorem renamed_block_is_not_dispatched : ∃ g₁ g₂ g,
    (start padCodec inputEventCodes {} (some (padFile "pad" "firefox"))).run {} = .ok true g₁ ∧
    (reload padCodec inputEventCodes (some (padFile "macro_pad" "firefox"))).run g₁ =
      .ok true g₂ ∧
    (start padCodec inputEventCodes {} (some (padFile "macro_pad" "firefox"))).run {} =
      .ok true g ∧
    ¬ DispatchesAlike ((boot padMachine g₁).reloaded g₂) (boot padMachine g) fun _ => True := by
  have hl₁ : Loads padCodec inputEventCodes (padFile "pad" "firefox") := padFile_loads rfl
  have hl₂ : Loads padCodec inputEventCodes (padFile "macro_pad" "firefox") := padFile_loads rfl
  obtain ⟨hr₁, hd₁⟩ := hl₁.bind
  obtain ⟨hr₂, hd₂⟩ := hl₂.bind
  exact ⟨_, _, _, start_run hr₁ hd₁, reload_run hr₂ hd₂ _, start_run hr₂ hd₂,
    renamed_dispatches_differently rfl rfl rfl⟩

end PointerForce.Daemon.ReloadDispatch
