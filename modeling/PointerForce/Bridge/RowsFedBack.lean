import PointerForce.Bridge.CommandEndpoints

/-! The rows of `GET /api/bindings` posted back to the bridge. It refuses an empty device id and an
empty command, which a configuration file may give. -/

namespace PointerForce.Bridge.CommandEndpoints

open Foundations Foundations.Faults Foundations.FiniteMaps Foundations.Machines Daemon
  Daemon.ControlServer Daemon.Mapper Daemon.ListedBindings Client.OneShot

section Rows

variable {C : Codec} {K : KeyCodes} {table : Table} {entries : List BindingEntry} {b : BindingEntry}

lemma indexable_row (b : BindingEntry) : (row b).Indexable := indexable_ofMembers _

lemma row_device (b : BindingEntry) : (row b).field "device" = some (.string b.deviceId) := by
  simp [row, Json.ofMembers, Json.field_set]

lemma row_key (b : BindingEntry) : (row b).field "key" = some (.string b.keyName) := by
  simp [row, Json.ofMembers, Json.field_set]

lemma row_command (b : BindingEntry) : (row b).field "command" = some (.string b.command) := by
  simp [row, Json.ofMembers, Json.field_set]

lemma raising_ok {α : Type} (a : α) : raising (.ok a) = .ok a := rfl

lemma checkBind_row (b : BindingEntry) : checkBind (some (row b)) =
    if b.deviceId = "" ∨ b.keyName = "" ∨ b.command = "" then
      refuse "device, key, and command must be non-empty"
    else .ok (b.deviceId, b.keyName, b.command) := by
  have hi := indexable_row b
  have hfields : hasFields (row b) ["device", "key", "command"] = .ok true := by
    rw [ClientSafety.hasFields_indexable hi]
    simp [row_device, row_key, row_command]
  simp only [checkBind, hfields, text_string hi (row_device b), text_string hi (row_key b),
    text_string hi (row_command b), raising_ok, ok_bind, Bool.not_true, Bool.false_eq_true, if_false]
  split <;> rfl

lemma checkUnbind_row (b : BindingEntry) : checkUnbind (some (row b)) =
    if b.deviceId = "" ∨ b.keyName = "" then refuse "device and key must be non-empty"
    else .ok (b.deviceId, b.keyName) := by
  have hi := indexable_row b
  have hfields : hasFields (row b) ["device", "key"] = .ok true := by
    rw [ClientSafety.hasFields_indexable hi]
    simp [row_device, row_key]
  simp only [checkUnbind, hfields, text_string hi (row_device b), text_string hi (row_key b),
    raising_ok, ok_bind, Bool.not_true, Bool.false_eq_true, if_false]
  split <;> rfl

def Rebindable (b : BindingEntry) : Bool := b.deviceId ≠ "" ∧ b.command ≠ ""

def Unbindable (b : BindingEntry) : Bool := b.deviceId ≠ ""

lemma run_adds (table : Table) : (run (call K) table (entries.map fun b =>
    .add b.deviceId b.keyName b.command)).1 = replay K table entries := by
  induction entries generalizing table with
  | nil => rfl
  | cons b entries ih => exact ih _

variable (hk : ∀ b ∈ entries, b.keyName ∈ keyNames ∧ (K.code b.keyName : ℤ) = b.keycode)
include hk

lemma filterMap_bind_rows : (entries.map fun b => Request.bind (some (row b))).filterMap mapperOp =
    (entries.filter Rebindable).map fun b => .add b.deviceId b.keyName b.command := by
  have hempty : "" ∉ keyNames := by decide
  induction entries with
  | nil => rfl
  | cons b entries ih =>
    have hb : b.keyName ≠ "" := fun he => hempty (he ▸ (hk b List.mem_cons_self).1)
    have hrest := ih fun c hc => hk c (List.mem_cons_of_mem b hc)
    rw [List.map_cons, List.filterMap_cons, hrest, List.filter_cons, mapperOp, checkBind_row]
    by_cases hr : Rebindable b = true
    · have hne : ¬ (b.deviceId = "" ∨ b.keyName = "" ∨ b.command = "") := by
        simp [Rebindable] at hr
        simp [hr, hb]
      rw [if_neg hne, if_pos hr]
      rfl
    · have he : b.deviceId = "" ∨ b.keyName = "" ∨ b.command = "" := by
        simp [Rebindable] at hr
        by_cases hd : b.deviceId = "" <;> simp_all
      rw [if_pos he, if_neg hr]
      rfl

lemma filterMap_unbind_rows : (entries.map fun b => Request.unbind (some (row b))).filterMap mapperOp =
    (entries.filter Unbindable).map fun b => .remove b.deviceId b.keyName := by
  have hempty : "" ∉ keyNames := by decide
  induction entries with
  | nil => rfl
  | cons b entries ih =>
    have hb : b.keyName ≠ "" := fun he => hempty (he ▸ (hk b List.mem_cons_self).1)
    have hrest := ih fun c hc => hk c (List.mem_cons_of_mem b hc)
    rw [List.map_cons, List.filterMap_cons, hrest, List.filter_cons, mapperOp, checkUnbind_row]
    by_cases hd : b.deviceId = ""
    · have hu : ¬ Unbindable b = true := by simp [Unbindable, hd]
      rw [if_pos (.inl hd), if_neg hu]
      rfl
    · have hu : Unbindable b = true := by simp [Unbindable, hd]
      have hne : ¬ (b.deviceId = "" ∨ b.keyName = "") := by simp [hd, hb]
      rw [if_neg hne, if_pos hu]
      rfl

lemma run_removes (M : BindingMap) (deviceId : String) (code : ℤ) :
    (run (BindingMap.call K) M (entries.map fun b => .remove b.deviceId b.keyName)).1 deviceId code =
      if (deviceId, code) ∈ entries.map BindingEntry.pair then none else M deviceId code := by
  induction entries generalizing M with
  | nil => rfl
  | cons b entries ih =>
    obtain ⟨hm, hc⟩ := hk b List.mem_cons_self
    have hremove : (BindingMap.call K M (.remove b.deviceId b.keyName)).1 =
        M.update b.deviceId b.keycode none := by
      rw [BindingMap.call, hc]
      by_cases hs : (M b.deviceId b.keycode).isSome
      · rw [if_pos ⟨hm, hs⟩]
      · rw [if_neg (fun h => hs h.2), BindingMap.update_of_none]
        exact Option.not_isSome_iff_eq_none.mp hs
    rw [List.map_cons, run_cons, ih fun c hc => hk c (List.mem_cons_of_mem b hc), hremove,
      BindingMap.update]
    simp only [List.map_cons, List.mem_cons, BindingEntry.pair, Prod.mk.injEq]
    grind

omit hk

variable (hp : entries.Perm (allBindings K table))
include hp

lemma mem_pairs_filter {p : BindingEntry → Bool} {deviceId : String} {code : ℤ} :
    (deviceId, code) ∈ (entries.filter p).map BindingEntry.pair ↔
      ∃ command, flat table deviceId code = some command ∧
        p ⟨deviceId, codeToName K code, code, command⟩ := by
  rw [List.mem_map]
  constructor
  · rintro ⟨⟨d, keyName, c, command⟩, hb, he⟩
    obtain ⟨hd, hc⟩ := Prod.mk.inj he
    obtain ⟨hb, hpb⟩ := List.mem_filter.mp hb
    obtain ⟨hf, hkey⟩ := (mem_allBindings table).mp (hp.mem_iff.mp hb)
    dsimp only at hd hc hf hkey
    subst hd hc hkey
    exact ⟨command, hf, hpb⟩
  · rintro ⟨command, hf, hpb⟩
    exact ⟨_, List.mem_filter.mpr ⟨hp.mem_iff.mpr ((mem_allBindings table).mpr ⟨hf, rfl⟩), hpb⟩, rfl⟩

lemma flat_replay_filter
    (hk : ∀ b ∈ entries, b.keyName ∈ keyNames ∧ (K.code b.keyName : ℤ) = b.keycode)
    (p : BindingEntry → Bool) (deviceId : String) (code : ℤ) :
    flat (replay K ∅ (entries.filter p)) deviceId code =
      (flat table deviceId code).filter fun command =>
        p ⟨deviceId, codeToName K code, code, command⟩ := by
  have hk' : ∀ b ∈ entries.filter p, b.keyName ∈ keyNames ∧ (K.code b.keyName : ℤ) = b.keycode :=
    fun b hb => hk b (List.mem_of_mem_filter hb)
  have hnodup := (hp.map BindingEntry.pair).nodup_iff.mpr (nodup_allBindings table)
  have hd : ((entries.filter p).map BindingEntry.pair).Nodup :=
    hnodup.sublist (List.filter_sublist.map _)
  by_cases hm : (deviceId, code) ∈ (entries.filter p).map BindingEntry.pair
  · obtain ⟨command, hf, hpb⟩ := (mem_pairs_filter hp).mp hm
    have hb : ⟨deviceId, codeToName K code, code, command⟩ ∈ entries.filter p :=
      List.mem_filter.mpr ⟨hp.mem_iff.mpr ((mem_allBindings table).mpr ⟨hf, rfl⟩), hpb⟩
    rw [hf, Option.filter_some, if_pos hpb]
    exact replay_present hk' hd hb ∅
  · rw [replay_absent hk' hm, flat_empty]
    cases hf : flat table deviceId code with
    | none => rfl
    | some command =>
      have hpb : ¬ p ⟨deviceId, codeToName K code, code, command⟩ = true :=
        fun hpb => hm ((mem_pairs_filter hp).mpr ⟨command, hf, hpb⟩)
      rw [Option.filter_some, if_neg hpb]

end Rows

variable (C : Codec) (truncate : String → Option ℤ) (socketPath : String) (K : KeyCodes)

def bindRows (split : Pieces) (entries : List BindingEntry) : List (Pieces × Request) :=
  entries.map fun b => (split, .bind (some (row b)))

def unbindRows (split : Pieces) (entries : List BindingEntry) : List (Pieces × Request) :=
  entries.map fun b => (split, .unbind (some (row b)))

/-- The rows may come in any order, as those of an `unordered_map` do. -/
theorem rows_fed_back (calls : List ListedBindings.Call) (split : Pieces) (entries : List BindingEntry)
    (hreply : ∀ v, Reply C K v → Written C v)
    (hp : entries.Perm (allBindings K (run (ListedBindings.step C K) {} calls).1.table)) :
    let table := (run (ListedBindings.step C K) {} calls).1.table
    (∀ s : Session, s.table = ∅ →
      (∀ r ∈ bindRows split entries, ∀ req, requestOf r.2 = some req → Written C req) →
      ∃ t responses, (requests C truncate socketPath K (bindRows split entries)).run s =
          .ok responses t ∧
        ∀ deviceId code, flat t.table deviceId code =
          (flat table deviceId code).filter fun command => deviceId ≠ "" ∧ command ≠ "") ∧
    ∀ s : Session, s.table = table →
      (∀ r ∈ unbindRows split entries, ∀ req, requestOf r.2 = some req → Written C req) →
      ∃ t responses, (requests C truncate socketPath K (unbindRows split entries)).run s =
          .ok responses t ∧
        ∀ deviceId code, flat t.table deviceId code =
          (flat table deviceId code).filter fun _ => deviceId = "" := by
  intro table
  have hn := reachable_named (C := C) (K := K) calls
  have hk : ∀ b ∈ entries, b.keyName ∈ keyNames ∧ (K.code b.keyName : ℤ) = b.keycode :=
    fun b hb => listed_key hn (hp.mem_iff.mp hb)
  constructor
  · intro s hs hreq
    have hruns : ∀ r ∈ bindRows split entries, r.2 ≠ .reload ∧ r.2 ≠ .status := by
      simp [bindRows]
    obtain ⟨t, responses, hrun, -, hflat⟩ := endpoints_refine_binding_map C truncate socketPath K
      (bindRows split entries) s hreply hreq hruns
    refine ⟨t, responses, hrun, fun deviceId code => ?_⟩
    have hops : ((bindRows split entries).map Prod.snd).filterMap mapperOp =
        (entries.filter Rebindable).map fun b => .add b.deviceId b.keyName b.command := by
      rw [bindRows, List.map_map]
      exact filterMap_bind_rows hk
    rw [hops, hs] at hflat
    have hreplay := ((call_simulates (K := K)).run ∅ ((entries.filter Rebindable).map
      fun b => .add b.deviceId b.keyName b.command)).1
    rw [run_adds] at hreplay
    have htable : flat t.table = flat (replay K ∅ (entries.filter Rebindable)) :=
      (congrArg Prod.fst hflat).trans hreplay.symm
    rw [htable]
    exact flat_replay_filter hp hk Rebindable deviceId code
  · intro s hs hreq
    have hruns : ∀ r ∈ unbindRows split entries, r.2 ≠ .reload ∧ r.2 ≠ .status := by
      simp [unbindRows]
    obtain ⟨t, responses, hrun, -, hflat⟩ := endpoints_refine_binding_map C truncate socketPath K
      (unbindRows split entries) s hreply hreq hruns
    refine ⟨t, responses, hrun, fun deviceId code => ?_⟩
    have hops : ((unbindRows split entries).map Prod.snd).filterMap mapperOp =
        (entries.filter Unbindable).map fun b => .remove b.deviceId b.keyName := by
      rw [unbindRows, List.map_map]
      exact filterMap_unbind_rows hk
    rw [hops, hs] at hflat
    have htable : flat t.table deviceId code = _ := congrFun₂ (congrArg Prod.fst hflat) deviceId code
    rw [htable, run_removes fun b hb => hk b (List.mem_of_mem_filter hb)]
    simp only [mem_pairs_filter hp]
    cases flat table deviceId code with
    | none => simp
    | some command => by_cases hd : deviceId = "" <;> simp [hd, Unbindable, Option.filter_some]

-- the endpoints refuse the second row, and the third one where it is to be bound
def threeRows : List BindingEntry := [⟨"G502", "BTN_SIDE", 275, "xdotool key F5"⟩,
  ⟨"", "KEY_A", 30, "firefox"⟩, ⟨"G502", "KEY_A", 30, ""⟩]

def boundRows : List ListedBindings.Call :=
  threeRows.map fun b => .add b.deviceId b.keyName b.command

def boundTable : Table :=
  (run (ListedBindings.step lineCodec inputEventCodes) {} boundRows).1.table

lemma threeRows_perm : threeRows.Perm (allBindings inputEventCodes boundTable) := by
  have hentries : entries boundTable =
      [("", 30, "firefox"), ("G502", 30, ""), ("G502", 275, "xdotool key F5")] := by decide
  have hname : ∀ name ∈ keyNames, ∀ code : ℤ, inputEventCodes.code name = code →
      codeToName inputEventCodes code = name := by
    rintro name hmem code rfl
    exact codeToName_code inputEventCodes hmem
  have hkey := hname "KEY_A" (by decide) 30 (by decide)
  have hside := hname "BTN_SIDE" (by decide) 275 (by decide)
  rw [allBindings_eq, hentries]
  simp only [List.map_cons, List.map_nil, hkey, hside]
  decide

lemma bindRows_written (r : Pieces × Request) (hr : r ∈ bindRows .whole threeRows) (req : Json)
    (h : requestOf r.2 = some req) : Written lineCodec req := by
  apply written_lines
  simp only [bindRows, threeRows, List.map_cons, List.map_nil, List.mem_cons, List.not_mem_nil,
    or_false] at hr
  rcases hr with rfl | rfl | rfl
  · obtain rfl : bindRequest "G502" "BTN_SIDE" "xdotool key F5" = req := Option.some.inj h
    simp [lineTable]
  · cases h
  · cases h

lemma unbindRows_written (r : Pieces × Request) (hr : r ∈ unbindRows .whole threeRows) (req : Json)
    (h : requestOf r.2 = some req) : Written lineCodec req := by
  apply written_lines
  simp only [unbindRows, threeRows, List.map_cons, List.map_nil, List.mem_cons, List.not_mem_nil,
    or_false] at hr
  rcases hr with rfl | rfl | rfl
  · obtain rfl : unbindRequest "G502" "BTN_SIDE" = req := Option.some.inj h
    simp [lineTable]
  · cases h
  · obtain rfl : unbindRequest "G502" "KEY_A" = req := Option.some.inj h
    simp [lineTable]

theorem three_rows_fed_back :
    (∃ t responses, (requests lineCodec (fun _ => none) "/tmp/pointerforce.sock" inputEventCodes
        (bindRows .whole threeRows)).run {} = .ok responses t ∧
      flat t.table "G502" 275 = some "xdotool key F5" ∧ flat t.table "" 30 = none ∧
        flat t.table "G502" 30 = none) ∧
    ∃ t responses, (requests lineCodec (fun _ => none) "/tmp/pointerforce.sock" inputEventCodes
        (unbindRows .whole threeRows)).run { table := boundTable } = .ok responses t ∧
      flat t.table "G502" 275 = none ∧ flat t.table "" 30 = some "firefox" ∧
        flat t.table "G502" 30 = none := by
  obtain ⟨hbind, hunbind⟩ := rows_fed_back lineCodec (fun _ => none) "/tmp/pointerforce.sock"
    inputEventCodes boundRows .whole threeRows written_reply threeRows_perm
  obtain ⟨t, responses, hrun, hflat⟩ := hbind {} rfl bindRows_written
  obtain ⟨t', responses', hrun', hflat'⟩ := hunbind { table := boundTable } rfl unbindRows_written
  refine ⟨⟨t, responses, hrun, ?_⟩, t', responses', hrun', ?_⟩
  · rw [hflat, hflat, hflat]
    decide
  · rw [hflat', hflat', hflat']
    decide

end PointerForce.Bridge.CommandEndpoints
