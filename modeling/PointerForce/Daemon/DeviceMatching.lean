import PointerForce.Daemon.DeviceManager
import PointerForce.Foundations.GreedyMatching
import Mathlib.Data.String.Basic

/-! Which block of the configuration gets which event node. The device manager goes through the
nodes in their order and gives each to the first block that is still free and that it matches. -/

namespace PointerForce.Daemon.DeviceMatching

open Foundations DeviceManager

variable (m : Machine) (devices : List DeviceConfig)

def fits (i : ℕ) (path : String) : Bool :=
  devices[i]?.any fun dc => sysfsMatches (probeSysfs m path) path dc.criteria

def opened : List (ℕ × String) :=
  GreedyMatching.giveAll (fits m devices) m.opens devices.length (candidates m)

/-- An event node that sorts before this one can be opened, matches the block, and matches no
earlier block that has not been served by then in its turn. -/
def Served (i : ℕ) (path : String) : Prop :=
  GreedyMatching.Served (fits m devices) m.opens devices.length (candidates m) i path

def entryOf (p : ℕ × String) : Option Entry := devices[p.1]?.map fun cfg => ⟨cfg, p.2⟩

def returned : List Entry × ℕ :=
  let entries := openAll m devices
  (entries, entries.length)

def EventNode (path : String) : Prop :=
  ∃ fname ∈ m.listing, "event".toList <+: fname.toList ∧ path = "/dev/input/" ++ fname

def Fits (i : ℕ) (path : String) : Prop :=
  ∃ dc, devices[i]? = some dc ∧ sysfsMatches (probeSysfs m path) path dc.criteria

structure StableMatching (placed : List (ℕ × String)) : Prop where
  nodes : (placed.map Prod.snd).Nodup
  blocks : (placed.map Prod.fst).Nodup
  fitting : ∀ p ∈ placed, EventNode m p.2 ∧ Fits m devices p.1 p.2 ∧ m.opens p.2
  maximal : ∀ i < devices.length, i ∉ placed.map Prod.fst → ∀ path, EventNode m path →
    Fits m devices i path → m.opens path = false ∨ path ∈ placed.map Prod.snd
  priority : ∀ p ∈ placed, ∀ j < p.1, Fits m devices j p.2 → ∃ path < p.2, (j, path) ∈ placed

variable {m devices}

section Loop

structure Marks (devices : List DeviceConfig) (s : List Entry × List Bool) (given : List (ℕ × String)) : Prop where
  entries : s.1 = given.filterMap (entryOf devices)
  marks : s.2 = (List.range devices.length).map fun i => decide (i ∈ given.map Prod.fst)

lemma findMatch_eq {matched : List Bool} {given : List (ℕ × String)}
    (h : matched = (List.range devices.length).map fun i => decide (i ∈ given.map Prod.fst))
    (path : String) : findMatch (probeSysfs m path) path devices matched =
      GreedyMatching.choose (fits m devices) devices.length given path := by
  have hlen : (devices.zip matched).length = devices.length := by simp [h]
  ext i
  rw [GreedyMatching.choose_eq_some_iff, findMatch, List.findIdx?_eq_some_iff_getElem]
  simp only [h, List.getElem_zip, List.getElem_map, List.getElem_range, fits,
    Bool.and_eq_true, Bool.not_eq_true', decide_eq_false_iff_not]
  constructor
  · rintro ⟨hi, ⟨hfree, ha⟩, hj⟩
    have hi : i < devices.length := by simpa using hi
    refine ⟨hi, hfree, by simpa [hi] using ha, ?_⟩
    intro j hlt haj
    have hjn := hlt.trans hi
    by_contra hn
    exact hj j hlt ⟨hn, by simpa [hjn] using haj⟩
  · rintro ⟨hi, hfree, ha, hj⟩
    refine ⟨by simpa using hi, ⟨hfree, by simpa [hi] using ha⟩, ?_⟩
    rintro j hlt ⟨hn, haj⟩
    have hjn := hlt.trans hi
    exact hn (hj j hlt (by simpa [hjn] using haj))

lemma openNode_marks {s : List Entry × List Bool} {given : List (ℕ × String)}
    (h : Marks devices s given) (path : String) :
    Marks devices (openNode m devices s path)
      (GreedyMatching.give (fits m devices) m.opens devices.length given path) := by
  rw [openNode, GreedyMatching.give, findMatch_eq h.marks]
  cases hc : GreedyMatching.choose (fits m devices) devices.length given path with
  | none => exact h
  | some i =>
    obtain ⟨hi, -⟩ := GreedyMatching.choose_eq_some_iff.mp hc
    simp only [List.getElem?_eq_getElem hi]
    split
    · constructor
      · simp [h.entries, entryOf, hi]
      · rw [h.marks]
        apply List.ext_getElem
        · simp
        · intro k hk hk'
          simp only [List.getElem_set, List.getElem_map, List.getElem_range, List.map_append]
          by_cases hik : i = k
          · simp [hik]
          · simp [hik, Ne.symm hik]
    · exact h

lemma openAll_eq : openAll m devices = (opened m devices).filterMap (entryOf devices) := by
  have hfold : ∀ (paths : List String) (s : List Entry × List Bool) (given : List (ℕ × String)),
      Marks devices s given → Marks devices
        (paths.foldl (openNode m devices) s)
        (paths.foldl (GreedyMatching.give (fits m devices) m.opens devices.length) given) := by
    intro paths
    induction paths with
    | nil => exact fun s given h => h
    | cons path paths ih => exact fun s given h => ih _ _ (openNode_marks h path)
  refine (hfold (candidates m) _ [] ⟨rfl, ?_⟩).entries
  simp

end Loop

section Order

lemma fits_iff {i : ℕ} {path : String} : fits m devices i path ↔ Fits m devices i path := by
  rw [fits, Option.any_eq_true, Fits]

lemma mem_candidates_iff {path : String} : path ∈ candidates m ↔ EventNode m path := by
  rw [candidates, List.mem_mergeSort, List.mem_map, EventNode]
  simp only [List.mem_filter, List.isPrefixOf_iff_prefix, and_assoc, eq_comm (a := path)]
  rfl

lemma candidates_sorted (h : m.listing.Nodup) : (candidates m).Pairwise (· < ·) := by
  have hsorted : (candidates m).Pairwise (· ≤ ·) := by
    have hs : (candidates m).Pairwise fun a b => decide (a ≤ b) = true := by
      apply List.pairwise_mergeSort
      · intro a b c hab hbc
        simp only [decide_eq_true_eq] at hab hbc ⊢
        exact le_trans hab hbc
      · intro a b
        simp only [Bool.or_eq_true, decide_eq_true_eq]
        exact le_total a b
    exact hs.imp fun h => of_decide_eq_true h
  have hinj : Function.Injective fun fname : String => inputDir ++ "/" ++ fname := fun a b hab =>
    (String.append_right_inj _).mp hab
  have hnodup : (candidates m).Nodup :=
    (List.mergeSort_perm _ _).nodup_iff.mpr ((h.filter _).map hinj)
  exact hsorted.imp₂ (fun a b hle hne => lt_of_le_of_ne hle hne) hnodup

lemma mem_opened_iff (h : m.listing.Nodup) {i : ℕ} {path : String} : (i, path) ∈ opened m devices ↔
    path ∈ candidates m ∧ m.opens path ∧ i < devices.length ∧ fits m devices i path ∧
      ¬ Served m devices i path ∧ ∀ j < i, fits m devices j path → Served m devices j path :=
  GreedyMatching.given_iff (candidates_sorted h)

lemma mem_openAll_iff {e : Entry} : e ∈ openAll m devices ↔
    ∃ i, devices[i]? = some e.cfg ∧ (i, e.path) ∈ opened m devices := by
  rw [openAll_eq, List.mem_filterMap]
  constructor
  · rintro ⟨⟨i, path⟩, hm, he⟩
    obtain ⟨cfg, hcfg, rfl⟩ := Option.map_eq_some_iff.mp he
    exact ⟨i, hcfg, hm⟩
  · rintro ⟨i, hcfg, hm⟩
    exact ⟨(i, e.path), hm, by simp [entryOf, hcfg]⟩

end Order

lemma opened_entries : (openAll m devices).map some = (opened m devices).map (entryOf devices) := by
  have hsome : ∀ p ∈ opened m devices, (entryOf devices p).isSome := by
    intro p hp
    have hlt := GreedyMatching.lt_of_mem_giveAll hp
    simp [entryOf, hlt]
  rw [openAll_eq, List.map_filterMap_some_eq_filter_map_isSome, List.filter_eq_self]
  intro o ho
  obtain ⟨p, hp, rfl⟩ := List.mem_map.mp ho
  exact hsome p hp

theorem open_all_stable (m : Machine) (hlisting : m.listing.Nodup) (devices : List DeviceConfig) :
    ∃ placed, StableMatching m devices placed ∧
      (returned m devices).1.map some = placed.map (entryOf devices) ∧
      (returned m devices).2 = placed.length := by
  have hsorted := candidates_sorted hlisting
  have hcount : (returned m devices).2 = (opened m devices).length := by
    have hentries : (openAll m devices).map some = (opened m devices).map (entryOf devices) :=
      opened_entries
    have hlen := congrArg List.length hentries
    rwa [List.length_map, List.length_map] at hlen
  refine ⟨opened m devices, ⟨?_, ?_, ?_, ?_, ?_⟩, opened_entries, hcount⟩
  · exact GreedyMatching.items_nodup hsorted
  · exact GreedyMatching.places_nodup
  · rintro ⟨i, path⟩ hp
    obtain ⟨hmem, hopens, -, hfits, -⟩ := (mem_opened_iff hlisting).mp hp
    exact ⟨mem_candidates_iff.mp hmem, fits_iff.mp hfits, hopens⟩
  · intro i hi hempty path hnode hfits
    cases ho : m.opens path with
    | false => exact .inl rfl
    | true =>
      exact .inr (GreedyMatching.maximal hsorted hi hempty (mem_candidates_iff.mpr hnode)
        (fits_iff.mpr hfits) ho)
  · rintro ⟨i, path⟩ hp j hj hfits
    obtain ⟨-, -, -, -, -, hserved⟩ := (mem_opened_iff hlisting).mp hp
    exact (GreedyMatching.served_iff hsorted j path).mp (hserved j hj (fits_iff.mpr hfits))

def mouse : DeviceConfig where
  id := "gaming_mouse"
  criteria := { nameContains := "BT5.1 Mouse" }

def pedal : DeviceConfig where
  id := "foot_pedal"
  criteria := { path := "/dev/input/event3" }

def mice (listing : List String) : Machine where
  listing
  sysfs path :=
    if "name".toList <:+ path.toList then some "BT5.1 Mouse"
    else if "vendor".toList <:+ path.toList then some "046d"
    else if "product".toList <:+ path.toList then some "c08b"
    else none
  opens _ := true

lemma mice_candidates : candidates (mice ["event2", "event3", "js0"]) =
    ["/dev/input/event2", "/dev/input/event3"] := by
  have hf : ((mice ["event2", "event3", "js0"]).listing.filter fun fname =>
      "event".toList.isPrefixOf fname.toList).map (fun fname => inputDir ++ "/" ++ fname) =
        ["/dev/input/event2", "/dev/input/event3"] := by decide
  rw [candidates, hf]
  exact List.mergeSort_of_pairwise (by decide)

lemma mouse_candidates : candidates (mice ["event3"]) = ["/dev/input/event3"] := by
  have hf : ((mice ["event3"]).listing.filter fun fname =>
      "event".toList.isPrefixOf fname.toList).map (fun fname => inputDir ++ "/" ++ fname) =
        ["/dev/input/event3"] := by decide
  rw [candidates, hf, List.mergeSort_singleton]

lemma mice_entries : openAll (mice ["event2", "event3", "js0"]) [mouse, pedal] =
    [⟨mouse, "/dev/input/event2"⟩, ⟨pedal, "/dev/input/event3"⟩] := by
  rw [openAll, mice_candidates]
  rfl

theorem mice_matched : ∃ placed, StableMatching (mice ["event2", "event3", "js0"]) [mouse, pedal] placed ∧
    [some ⟨mouse, "/dev/input/event2"⟩, some ⟨pedal, "/dev/input/event3"⟩] =
      placed.map (entryOf [mouse, pedal]) ∧ placed.length = 2 := by
  obtain ⟨placed, hstable, hentries, hcount⟩ :=
    open_all_stable (mice ["event2", "event3", "js0"]) (by decide) [mouse, pedal]
  simp only [returned, mice_entries] at hentries hcount
  exact ⟨placed, hstable, hentries, hcount.symm⟩

section ExactPath

lemma eq_path_of_matches {info : SysfsInfo} {path : String} {criteria : DeviceMatch}
    (hp : criteria.path ≠ "") : sysfsMatches info path criteria ↔ path = criteria.path := by
  rw [sysfsMatches, if_pos hp, beq_iff_eq]

lemma not_served_of_path {b : ℕ} {dc : DeviceConfig} (hb : devices[b]? = some dc)
    (hp : dc.criteria.path ≠ "") : ¬ Served m devices b dc.criteria.path := by
  rintro ⟨y, -, hlt, -, -, ha, -⟩
  obtain ⟨dc', hdc, hy⟩ := fits_iff.mp ha
  obtain rfl := Option.some.inj (hb.symm.trans hdc)
  exact hlt.ne ((eq_path_of_matches hp).mp hy)

end ExactPath

theorem exact_path_opened_iff (m : Machine) (hlisting : m.listing.Nodup)
    (devices : List DeviceConfig) {b : ℕ} {dc : DeviceConfig} (hb : devices[b]? = some dc)
    (hpath : dc.criteria.path ≠ "") (hnode : dc.criteria.path ∈ candidates m)
    (hopens : m.opens dc.criteria.path)
    (hnamed : ∀ i dc', devices[i]? = some dc' → dc'.criteria.path = dc.criteria.path → i = b) :
    ⟨dc, dc.criteria.path⟩ ∈ openAll m devices ↔
      ∀ j < b, fits m devices j dc.criteria.path → Served m devices j dc.criteria.path := by
  have hfits : fits m devices b dc.criteria.path :=
    fits_iff.mpr ⟨dc, hb, (eq_path_of_matches hpath).mpr rfl⟩
  have hlt : b < devices.length := (List.getElem?_eq_some_iff.mp hb).1
  rw [mem_openAll_iff]
  constructor
  · rintro ⟨i, hi, hm⟩
    obtain rfl : i = b := hnamed i dc hi rfl
    exact ((mem_opened_iff hlisting).mp hm).2.2.2.2.2
  · intro h
    exact ⟨b, hb, (mem_opened_iff hlisting).mpr
      ⟨hnode, hopens, hlt, hfits, not_served_of_path hb hpath, h⟩⟩

theorem pedal_opened_after_mouse :
    ⟨pedal, "/dev/input/event3"⟩ ∈ openAll (mice ["event2", "event3", "js0"]) [mouse, pedal] := by
  have hnode : pedal.criteria.path ∈ candidates (mice ["event2", "event3", "js0"]) := by
    rw [mice_candidates]
    decide
  have hnamed : ∀ i dc', [mouse, pedal][i]? = some dc' →
      dc'.criteria.path = pedal.criteria.path → i = 1 := by
    intro i dc' hi hp
    match i with
    | 0 =>
      obtain rfl := Option.some.inj hi
      exact absurd hp (by decide)
    | 1 => rfl
    | i + 2 => cases hi
  refine (exact_path_opened_iff _ (by decide) _ (rfl : [mouse, pedal][1]? = some pedal) (by decide)
    hnode rfl hnamed).mpr ?_
  intro j hj _
  obtain rfl : j = 0 := Nat.lt_one_iff.mp hj
  refine .intro "/dev/input/event2" ?_ (by decide) rfl (by decide) (by decide) ?_
  · rw [mice_candidates]
    decide
  · exact fun j hj => absurd hj (Nat.not_lt_zero j)

theorem looser_block_takes_path : pedal.criteria.path ∈ candidates (mice ["event3"]) ∧
    (mice ["event3"]).opens pedal.criteria.path ∧ mouse.criteria.path ≠ pedal.criteria.path ∧
    ⟨pedal, pedal.criteria.path⟩ ∉ openAll (mice ["event3"]) [mouse, pedal] := by
  have hopened : openAll (mice ["event3"]) [mouse, pedal] = [⟨mouse, "/dev/input/event3"⟩] := by
    rw [openAll, mouse_candidates]
    rfl
  refine ⟨?_, rfl, by decide, ?_⟩
  · rw [mouse_candidates]
    decide
  · rw [hopened, List.mem_singleton]
    intro h
    have hp := congrArg (fun e : Entry => e.cfg.criteria.path) h
    exact absurd hp (by decide)

section Criteria

def firstNonEmptyHolds (info : SysfsInfo) (eventPath : String) (criteria : DeviceMatch) : Bool :=
  if criteria.path ≠ "" then eventPath == criteria.path
  else if criteria.vendorProduct ≠ "" then info.vendorProduct == criteria.vendorProduct
  else criteria.nameContains ≠ "" && decide (criteria.nameContains.toList <:+: info.name.toList)

structure NameInstead (info : SysfsInfo) (criteria : DeviceMatch) : Prop where
  path : criteria.path = ""
  vendorProduct : criteria.vendorProduct ≠ "" ∧ info.vendorProduct ≠ criteria.vendorProduct
  nameContains : criteria.nameContains ≠ "" ∧ info.name ≠ "" ∧
    criteria.nameContains.toList <:+: info.name.toList

lemma nameInstead_iff {info : SysfsInfo} {path : String} {criteria : DeviceMatch} :
    NameInstead info criteria ↔
      sysfsMatches info path criteria ∧ ¬ firstNonEmptyHolds info path criteria := by
  by_cases hp : criteria.path = ""
  · by_cases hv : criteria.vendorProduct = ""
    · -- only the name is left, and both look at it
      refine iff_of_false (fun h => h.vendorProduct.1 hv) ?_
      simp only [sysfsMatches, firstNonEmptyHolds, hp, hv]
      simp only [ne_eq, not_true_eq_false, false_and, if_false, Bool.and_eq_true, decide_eq_true_eq]
      tauto
    · simp only [sysfsMatches, firstNonEmptyHolds, hp, hv, ne_eq, not_true_eq_false, if_false,
        not_false_eq_true, true_and, if_true, beq_iff_eq]
      constructor
      · rintro ⟨-, ⟨-, hne⟩, hn⟩
        rw [if_neg fun h => hne h.2]
        simp only [Bool.and_eq_true, decide_eq_true_eq]
        exact ⟨⟨⟨hn.1, hn.2.1⟩, hn.2.2⟩, hne⟩
      · rintro ⟨hm, hne⟩
        rw [if_neg fun h => hne h.2] at hm
        simp only [Bool.and_eq_true, decide_eq_true_eq] at hm
        exact ⟨hp, ⟨hv, hne⟩, hm.1.1, hm.1.2, hm.2⟩
  · refine iff_of_false (fun h => hp h.path) ?_
    rw [eq_path_of_matches hp, firstNonEmptyHolds, if_pos hp, beq_iff_eq]
    exact and_not_self

end Criteria

theorem first_nonempty_decides_iff (m : Machine) (hlisting : m.listing.Nodup)
    (devices : List DeviceConfig) :
    (∀ e ∈ openAll m devices, firstNonEmptyHolds (probeSysfs m e.path) e.path e.cfg.criteria) ↔
      ∀ path ∈ candidates m, m.opens path → ∀ i dc, devices[i]? = some dc →
        NameInstead (probeSysfs m path) dc.criteria →
          Served m devices i path ∨ ∃ j < i, fits m devices j path ∧ ¬ Served m devices j path := by
  constructor
  · intro h path hmem hopens i dc hdc hname
    by_contra hno
    simp only [not_or, not_exists, not_and, not_not] at hno
    obtain ⟨hm, hfirst⟩ := nameInstead_iff.mp hname
    have hlt : i < devices.length := (List.getElem?_eq_some_iff.mp hdc).1
    have hin := (mem_opened_iff hlisting).mpr
      ⟨hmem, hopens, hlt, fits_iff.mpr ⟨dc, hdc, hm⟩, hno.1, hno.2⟩
    exact hfirst (h ⟨dc, path⟩ (mem_openAll_iff.mpr ⟨i, hdc, hin⟩))
  · intro h e he
    obtain ⟨i, hdc, hin⟩ := mem_openAll_iff.mp he
    obtain ⟨hmem, hopens, -, hfits, hserved, hbefore⟩ := (mem_opened_iff hlisting).mp hin
    obtain ⟨dc, hdc', hm⟩ := fits_iff.mp hfits
    obtain rfl := Option.some.inj (hdc.symm.trans hdc')
    by_contra hfirst
    rcases h e.path hmem hopens i e.cfg hdc (nameInstead_iff.mpr ⟨hm, hfirst⟩) with hs | ⟨j, hj, hf, hn⟩
    · exact hserved hs
    · exact hn (hbefore j hj hf)

def namedPad : DeviceConfig where
  id := "macro_pad"
  criteria := { nameContains := "BT5.1", vendorProduct := "04d9:0348" }

lemma pad_covered : ∀ path ∈ candidates (mice ["event3"]), (mice ["event3"]).opens path → ∀ i dc,
    [pedal, namedPad][i]? = some dc → NameInstead (probeSysfs (mice ["event3"]) path) dc.criteria →
      Served (mice ["event3"]) [pedal, namedPad] i path ∨
        ∃ j < i, fits (mice ["event3"]) [pedal, namedPad] j path ∧
          ¬ Served (mice ["event3"]) [pedal, namedPad] j path := by
  intro path hmem _ i dc hdc hname
  rw [mouse_candidates, List.mem_singleton] at hmem
  subst hmem
  match i with
  | 0 =>
    obtain rfl := Option.some.inj hdc
    exact absurd hname.path (by decide)
  | 1 =>
    refine .inr ⟨0, Nat.one_pos, by decide, ?_⟩
    rintro ⟨y, hy, hlt, -⟩
    rw [mouse_candidates, List.mem_singleton] at hy
    exact hlt.ne hy
  | i + 2 => cases hdc

lemma mouse_probed : probeSysfs (mice ["event3"]) "/dev/input/event3" =
    { name := "BT5.1 Mouse", vendorProduct := "046d:c08b" } := by
  have hlower : ∀ w ∈ ["046d", "c08b"], w.toLower = w := by
    have hchars : ∀ w ∈ ["046d", "c08b"], w.toList.map Char.toLower = w.toList := by decide
    exact fun w hw => String.toList_inj.mp (String.toList_map.trans (hchars w hw))
  have hv := hlower "046d" (by decide)
  have hp := hlower "c08b" (by decide)
  have hread : ["name", "id/vendor", "id/product"].map (fun file =>
      sysfsRead (mice ["event3"]) ("/sys/class/input/" ++ nodeName "/dev/input/event3" ++
        "/device/" ++ file)) = ["BT5.1 Mouse", "046d", "c08b"] := by decide
  simp only [List.map_cons, List.map_nil, List.cons.injEq, and_true] at hread
  simp only [probeSysfs, hread, hv, hp]
  rfl

theorem pad_entries_checked :
    openAll (mice ["event3"]) [pedal, namedPad] = [⟨pedal, "/dev/input/event3"⟩] ∧
      firstNonEmptyHolds (probeSysfs (mice ["event3"]) "/dev/input/event3") "/dev/input/event3"
        pedal.criteria := by
  have hopened : openAll (mice ["event3"]) [pedal, namedPad] = [⟨pedal, "/dev/input/event3"⟩] := by
    rw [openAll, mouse_candidates]
    rfl
  have hchecked :=
    (first_nonempty_decides_iff (mice ["event3"]) (by decide) [pedal, namedPad]).mpr pad_covered
  rw [hopened] at hchecked
  exact ⟨hopened, hchecked ⟨pedal, "/dev/input/event3"⟩ (List.mem_singleton_self _)⟩

theorem pad_opened_by_name : ∃ e ∈ openAll (mice ["event3"]) [namedPad],
    ¬ firstNonEmptyHolds (probeSysfs (mice ["event3"]) e.path) e.path e.cfg.criteria := by
  have hopened : openAll (mice ["event3"]) [namedPad] = [⟨namedPad, "/dev/input/event3"⟩] := by
    rw [openAll, mouse_candidates, List.foldl_cons, List.foldl_nil, openNode, mouse_probed]
    rfl
  refine ⟨_, hopened ▸ List.mem_singleton_self _, ?_⟩
  rw [mouse_probed]
  decide

end PointerForce.Daemon.DeviceMatching
