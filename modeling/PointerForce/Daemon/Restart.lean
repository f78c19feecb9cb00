import PointerForce.Daemon.Startup

/-! Reloading a sequence of files against starting afresh with the last of them. -/

namespace PointerForce.Daemon.Restart

open Foundations ConfigLoader Startup

/-- Reloading leaves an option as a fresh start would. Where the command line forces the option,
the last of the reloaded files that gives it must give the forced value; elsewhere the last file
must give it, or the earlier files must leave it at its default. -/
def Survives {α : Type} (forced : Option α) (fallback : α) (values : List (Option α)) : Prop :=
  match forced with
  | some v => ∀ b, lastGiven values.tail = some b → b = v
  | none => (values.getLast?.join).isSome ∨ ∀ b, lastGiven values.dropLast = some b → b = fallback

lemma survives_iff {α : Type} (forced : Option α) (fallback : α) (v : Option α)
    (vs : List (Option α)) :
    vs.foldl (fun a v => v.getD a) (forced.getD (v.getD fallback)) =
        forced.getD (((v :: vs).getLast (List.cons_ne_nil v vs)).getD fallback) ↔
      Survives forced fallback (v :: vs) := by
  rw [LastGiven.foldl_getD]
  cases forced with
  | some w => cases h : lastGiven vs <;> simp [Survives, h]
  | none =>
    have hl := LastGiven.getD_eq_getLast_iff (List.cons_ne_nil v vs) fallback
    simpa [Survives, Option.getD_or, List.getLast?_eq_some_getLast] using hl

section Reinstalling

variable (K : KeyCodes)

def documentDevices (root : Json) : List DeviceConfig := keptDevices K ((devicesOf root).getD [])

def reinstall (g : Config) (roots : List Json) : Config :=
  roots.foldl (fun g root => installed K g.configPath root g) g

lemma reinstall_configPath (g : Config) (roots : List Json) :
    (reinstall K g roots).configPath = g.configPath := by
  induction roots generalizing g with
  | nil => rfl
  | cons root roots ih => exact ih _

lemma reinstall_daemonMode (g : Config) (roots : List Json) : (reinstall K g roots).daemonMode =
    (roots.map fun root => (optionsOf root).daemon).foldl (fun a v => v.getD a) g.daemonMode := by
  induction roots generalizing g with
  | nil => rfl
  | cons root roots ih => exact ih _

lemma reinstall_debug (g : Config) (roots : List Json) : (reinstall K g roots).debug =
    (roots.map fun root => (optionsOf root).debug).foldl (fun a v => v.getD a) g.debug := by
  induction roots generalizing g with
  | nil => rfl
  | cons root roots ih => exact ih _

lemma reinstall_controlSocket (g : Config) (roots : List Json) :
    (reinstall K g roots).controlSocket =
      (roots.map fun root => (optionsOf root).controlSocket).foldl (fun a v => v.getD a)
        g.controlSocket := by
  induction roots generalizing g with
  | nil => rfl
  | cons root roots ih => exact ih _

lemma reinstall_devices {g : Config} {root : Json} (h : g.devices = documentDevices K root)
    (roots : List Json) : (reinstall K g roots).devices =
      documentDevices K ((root :: roots).getLast (List.cons_ne_nil root roots)) := by
  induction roots generalizing g root with
  | nil => exact h
  | cons root' roots ih =>
    rw [List.getLast_cons (List.cons_ne_nil root' roots)]
    exact ih rfl

end Reinstalling

variable (C : Codec) (K : KeyCodes)

def rootOf (text : Bytes) : Json := (C.reader text).getD .null

def Loads (text : Bytes) : Prop := ∃ root, C.reader text = some root ∧ Loadable K root

def values {α : Type} (option : FileOptions → Option α) (texts : List Bytes) : List (Option α) :=
  texts.map fun text => option (optionsOf (rootOf C text))

variable {C K}

lemma Loads.bind {text : Bytes} (h : Loads C K text) :
    (some text).bind C.reader = some (rootOf C text) ∧ Loadable K (rootOf C text) := by
  obtain ⟨root, hr, hl⟩ := h
  simpa [rootOf, hr] using hl

lemma reloads_run {texts : List Bytes} (h : ∀ text ∈ texts, Loads C K text) (g : Config) :
    (forM (texts.map some) fun file => do let _ ← reload C K file : Loader Unit).run g =
      .ok () (reinstall K g (texts.map (rootOf C))) := by
  induction texts generalizing g with
  | nil => rfl
  | cons text texts ih =>
    obtain ⟨hr, hl⟩ := (h text List.mem_cons_self).bind
    rw [List.map_cons, List.forM_cons, EStateM.run_bind, EStateM.run_bind, reload_run hr hl]
    exact ih (fun t ht => h t (List.mem_cons_of_mem text ht)) _

def started (K : KeyCodes) (cl : CommandLine) (root : Json) : Config :=
  cl.override (installed K cl.configPath root {})

lemma history_run {cl : CommandLine} {first : Bytes} {others : List Bytes}
    (h : ∀ text ∈ first :: others, Loads C K text) :
    (history C K cl (some first) (others.map some)).run {} =
      .ok () (reinstall K (started K cl (rootOf C first)) (others.map (rootOf C))) := by
  obtain ⟨hr, hl⟩ := (h first List.mem_cons_self).bind
  rw [history, EStateM.run_bind, start_run hr hl]
  exact reloads_run (fun t ht => h t (List.mem_cons_of_mem first ht)) _

lemma started_eq (cl : CommandLine) (root : Json) : started K cl root =
    { devices := documentDevices K root
      daemonMode := cl.forcedDaemon.getD ((optionsOf root).daemon.getD false)
      debug := cl.forcedDebug.getD ((optionsOf root).debug.getD false)
      controlSocket := (optionsOf root).controlSocket.getD defaultControlSocket
      configPath := cl.configPath } := by
  rw [started, override_eq]
  rfl

lemma values_cons_getLast {α : Type} (option : FileOptions → Option α) (first : Bytes)
    (others : List Bytes) :
    option (optionsOf (rootOf C ((first :: others).getLast (List.cons_ne_nil first others)))) =
      (values C option (first :: others)).getLast (by simp [values]) :=
  (List.getLast_map (f := fun text => option (optionsOf (rootOf C text))) (by simp)).symm

theorem history_eq_start_iff (cl : CommandLine) (first : Bytes) (others : List Bytes)
    (h : ∀ text ∈ first :: others, Loads C K text) :
    ∃ g g', (history C K cl (some first) (others.map some)).run {} = .ok () g ∧
      (start C K cl (some ((first :: others).getLast (List.cons_ne_nil first others)))).run {} =
        .ok true g' ∧
      (g = g' ↔ Survives cl.forcedDaemon false (values C FileOptions.daemon (first :: others)) ∧
        Survives cl.forcedDebug false (values C FileOptions.debug (first :: others)) ∧
        Survives none defaultControlSocket
          (values C FileOptions.controlSocket (first :: others))) := by
  obtain ⟨hr, hl⟩ := (h _ (List.getLast_mem (List.cons_ne_nil first others))).bind
  refine ⟨_, _, history_run h, start_run hr hl, ?_⟩
  have hroot : rootOf C ((first :: others).getLast (List.cons_ne_nil first others)) =
      (rootOf C first :: others.map (rootOf C)).getLast (List.cons_ne_nil _ _) :=
    (List.getLast_map (f := rootOf C) (by simp)).symm
  have hdevices := reinstall_devices K (g := started K cl (rootOf C first))
    (congrArg Config.devices (started_eq cl (rootOf C first))) (others.map (rootOf C))
  have hdaemon := survives_iff cl.forcedDaemon false (optionsOf (rootOf C first)).daemon
    (values C FileOptions.daemon others)
  have hdebug := survives_iff cl.forcedDebug false (optionsOf (rootOf C first)).debug
    (values C FileOptions.debug others)
  have hsocket := survives_iff none defaultControlSocket (optionsOf (rootOf C first)).controlSocket
    (values C FileOptions.controlSocket others)
  change _ = started K cl _ ↔ _
  rw [Config.ext_iff, hdevices, reinstall_daemonMode, reinstall_debug, reinstall_controlSocket,
    reinstall_configPath, ← hroot]
  simp only [started_eq, List.map_map, true_and, and_true, values_cons_getLast]
  exact and_congr hdaemon (and_congr hdebug hsocket)

def plainText : Bytes := utf8 "\x7b\"devices\":[\x7b\"id\":\"*\"\x7d]\x7d"

def debugText : Bytes := utf8 "\x7b\"debug\":true,\"devices\":[\x7b\"id\":\"*\"\x7d]\x7d"

def sampleDevices : String × Json := ("devices", .array [.object [("id", .string "*")]])

def sampleCodec : Codec :=
  .ofTable [(plainText, .object [sampleDevices]),
    (debugText, .object [("debug", .bool true), sampleDevices])]

lemma reader_plainText : sampleCodec.reader plainText = some (.object [sampleDevices]) := rfl

lemma reader_debugText :
    sampleCodec.reader debugText = some (.object [("debug", .bool true), sampleDevices]) := rfl

lemma sample_readable : ∀ dev ∈ [Json.object [("id", .string "*")]],
    Readable inputEventCodes dev := by decide

lemma plainText_loads : Loads sampleCodec inputEventCodes plainText :=
  ⟨_, reader_plainText, _, rfl, sample_readable⟩

lemma debugText_loads : Loads sampleCodec inputEventCodes debugText :=
  ⟨_, reader_debugText, _, rfl, sample_readable⟩

theorem debug_given_last : ∃ g,
    (history sampleCodec inputEventCodes {} (some plainText) [some debugText]).run {} = .ok () g ∧
    (start sampleCodec inputEventCodes {} (some debugText)).run {} = .ok true g := by
  obtain ⟨g, g', hg, hg', h⟩ := history_eq_start_iff (C := sampleCodec) (K := inputEventCodes) {}
    plainText [debugText] (by simp [plainText_loads, debugText_loads])
  have hs : g = g' := h.mpr (by
    simp [Survives, values, rootOf, reader_plainText, reader_debugText, CommandLine.forcedDaemon,
      CommandLine.forcedDebug, optionsOf, sampleDevices, Json.bool?, List.lookup_cons, List.lookup_nil])
  exact ⟨g, hg, hs ▸ hg'⟩

theorem stale_debug_after_reload : ∃ g g',
    (history sampleCodec inputEventCodes {} (some debugText) [some plainText]).run {} = .ok () g ∧
    (start sampleCodec inputEventCodes {} (some plainText)).run {} = .ok true g' ∧ g ≠ g' := by
  have h : ∀ text ∈ [debugText, plainText], Loads sampleCodec inputEventCodes text := by
    simp [plainText_loads, debugText_loads]
  obtain ⟨hr, hl⟩ := plainText_loads.bind
  refine ⟨_, _, history_run h, start_run hr hl, ?_⟩
  intro he
  have hd := congrArg Config.debug he
  rw [reinstall_debug, ← started, started_eq, started_eq] at hd
  simp [rootOf, reader_plainText, reader_debugText, CommandLine.forcedDebug, optionsOf,
    sampleDevices, Json.bool?, List.lookup_cons, List.lookup_nil] at hd

end PointerForce.Daemon.Restart
