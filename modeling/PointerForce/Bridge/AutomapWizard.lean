import PointerForce.Bridge.EventLines
import PointerForce.Foundations.Runs

/-! The wizard of the page that asks for one button of the mouse after the other and notes the key
that the daemon reports for it. -/

namespace PointerForce.Bridge.AutomapWizard

open Foundations.Runs Foundations.Delimiters EventLines

inductive Slot where
  | left
  | right
  | middle
  | side1
  | side2
  | dpi
  deriving DecidableEq, Repr

inductive Extra where
  | side1
  | side2
  | dpi
  deriving DecidableEq, Repr

structure Step where
  slot : Slot
  extra : Option Extra := none
  deriving DecidableEq, Repr

def automapSteps : List Step :=
  [⟨.left, none⟩, ⟨.right, none⟩, ⟨.middle, none⟩, ⟨.side1, some .side1⟩, ⟨.side2, some .side2⟩,
    ⟨.dpi, some .dpi⟩]

inductive Status where
  | pending
  | captured
  | mapped
  | failed
  deriving DecidableEq, Repr

structure SlotState where
  status : Status := .pending
  key : Option String := none
  deriving DecidableEq, Repr

-- the check box and the text field of an extra button
structure ExtraDef where
  toggle : Bool
  input : String
  inputHidden : Bool
  deriving DecidableEq, Repr

structure SavedExtra where
  enabled : Bool
  key : String
  deriving DecidableEq, Repr

structure Extras where
  defs : Extra → ExtraDef
  saved : Option (Extra → SavedExtra)

/-- `confirmed` are the slots whose capture has been confirmed since the wizard was opened or reset,
and `toast` is the count that it has reported at its end. Nothing looks at the slots before the
wizard is opened. -/
structure Wizard where
  index : ℕ := 0
  slots : Slot → SlotState := fun _ => {}
  hidden : Bool := true
  extras : Extras
  confirmed : List Slot := []
  toast : Option ℕ := none

inductive Input where
  | event (line : String)
  | next
  | previous
  | reset
  | close
  | open

def Extra.defaultKey : Extra → String
  | .side1 => "BTN_SIDE"
  | .side2 => "BTN_EXTRA"
  | .dpi => "BTN_TASK"

def saveExtrasState (e : Extras) : Extras :=
  { e with saved := some fun name =>
      let key := String.ofList (trim isSpace (e.defs name).input.toList)
      { enabled := (e.defs name).toggle, key := if key = "" then name.defaultKey else key } }

def applyAutomapResult (step : Step) (key : String) (e : Extras) : Extras :=
  match step.extra with
  | none => e
  | some name => saveExtrasState { e with
      defs := Function.update e.defs name
        { toggle := true, input := .ofList (fieldText key.toList), inputHidden := false } }

def resetAutomapState (w : Wizard) : Wizard :=
  { w with slots := fun _ => {}, index := 0, confirmed := [] }

def openAutomapModal (w : Wizard) : Wizard :=
  { resetAutomapState w with hidden := false, toast := none }

def setSlot (w : Wizard) (slot : Slot) (st : SlotState) : Wizard :=
  { w with slots := Function.update w.slots slot st }

-- the part of `automapGoNext` that settles the slot of the current step
def settle (w : Wizard) (step : Step) : Wizard :=
  let st := w.slots step.slot
  match st.status with
  | .captured => { setSlot w step.slot { st with status := .mapped } with
      extras := applyAutomapResult step (st.key.getD "") w.extras
      confirmed := w.confirmed ++ [step.slot] }
  | .mapped => w
  | .pending | .failed => setSlot w step.slot { status := .failed, key := none }

def mappedCount (w : Wizard) : ℕ :=
  (automapSteps.filter fun step => (w.slots step.slot).status = .mapped).length

def automapGoNext (w : Wizard) : Option Wizard :=
  automapSteps[w.index]?.map fun step =>
    let w := settle w step
    if w.index < automapSteps.length - 1 then { w with index := w.index + 1 }
    else { w with hidden := true, toast := some (mappedCount w) }

def automapGoPrev (w : Wizard) : Wizard := if w.index = 0 then w else { w with index := w.index - 1 }

def automapHandleEvent (w : Wizard) (parsed : ParsedLine) : Option Wizard :=
  if w.hidden ∨ parsed.state = some .up then some w
  else automapSteps[w.index]?.map fun step =>
    setSlot w step.slot { status := .captured, key := some parsed.key }

-- the keys of the keyboard do nothing while the wizard is hidden
def step (w : Wizard) : Input → Option Wizard
  | .event line => (parseEventLine line).elim (some w) (automapHandleEvent w)
  | .next => if w.hidden then some w else automapGoNext w
  | .previous => some (if w.hidden then w else automapGoPrev w)
  | .reset => some (if w.hidden then w else resetAutomapState w)
  | .close => some { w with hidden := true }
  | .open => some (openAutomapModal w)

def Settled (status : Status) : Prop := status = .mapped ∨ status = .failed

def Word (key : String) : Prop := key ≠ "" ∧ ∀ c ∈ key.toList, ¬ isSpace c

def Applied (e : Extras) (name : Extra) (key : String) : Prop :=
  (e.defs name).toggle = true ∧ (e.defs name).input = key ∧
    ∃ saved, e.saved = some saved ∧ saved name = { enabled := true, key }

def confirmedCount (w : Wizard) : ℕ :=
  (automapSteps.filter fun step => step.slot ∈ w.confirmed).length

structure SlotInv (slots : Slot → SlotState) (extras : Extras) (confirmed : List Slot) : Prop where
  keyed : ∀ slot, ((slots slot).status = .captured ∨ (slots slot).status = .mapped) ↔
    (slots slot).key.isSome
  words : ∀ slot, ∀ key ∈ (slots slot).key, Word key
  applied : ∀ step ∈ automapSteps, ∀ name ∈ step.extra, (slots step.slot).status = .mapped →
    ∀ key ∈ (slots step.slot).key, Applied extras name key
  mapped : ∀ slot, (slots slot).status = .mapped → slot ∈ confirmed
  confirmed : ∀ slot ∈ confirmed, (slots slot).status = .captured ∨ (slots slot).status = .mapped

structure Inv (w : Wizard) : Prop where
  slots : SlotInv w.slots w.extras w.confirmed
  index : w.index < automapSteps.length
  before : ∀ i step, i < w.index → automapSteps[i]? = some step → Settled (w.slots step.slot).status
  shown : w.hidden = false → w.toast = none
  completed : ∀ n, w.toast = some n →
    (∀ slot, Settled (w.slots slot).status) ∧ n = confirmedCount w

section Extras

variable {e : Extras} {name other : Extra} {key : String}

lemma word_trim (h : Word key) : String.ofList (trim isSpace key.toList) = key := by
  have ht := trim_word (mt String.toList_eq_nil_iff.mp h.1) h.2 []
  rw [List.append_nil, List.rdropWhile_nil, List.append_nil] at ht
  rw [ht, String.ofList_toList]

lemma word_field (h : Word key) : String.ofList (fieldText key.toList) = key := by
  have hf : fieldText key.toList = key.toList := by
    refine fieldText_eq_self_iff.mpr fun c hc => ⟨?_, ?_⟩
    · rintro rfl
      exact h.2 _ hc (by decide)
    · rintro rfl
      exact h.2 _ hc (by decide)
  rw [hf, String.ofList_toList]

lemma saved_input (e : Extras) (hin : (e.defs name).input = key) (hw : Word key)
    (ht : (e.defs name).toggle = true) : Applied (saveExtrasState e) name key := by
  refine ⟨ht, hin, _, rfl, ?_⟩
  simp only [hin, ht, word_trim hw, if_neg hw.1]

lemma applied_self {step : Step} (hn : step.extra = some name) (hw : Word key) (e : Extras) :
    Applied (applyAutomapResult step key e) name key := by
  rw [applyAutomapResult, hn]
  refine saved_input _ ?_ hw ?_
  · simp [word_field hw]
  · simp

lemma applied_other {step : Step} (hn : step.extra ≠ some name) (hw : Word key) (new : String)
    (h : Applied e name key) : Applied (applyAutomapResult step new e) name key := by
  rw [applyAutomapResult]
  split
  · exact h
  · next other hother =>
    have hne : name ≠ other := by
      rintro rfl
      exact hn hother
    refine saved_input _ ?_ hw ?_
    · simpa [hne] using h.2.1
    · simpa [hne] using h.1

end Extras

section Slots

open Function (update)

variable {w : Wizard} {slots : Slot → SlotState} {extras : Extras} {confirmed : List Slot}
  {current : Step} {key : String}

lemma steps_distinct : ∀ s ∈ automapSteps, ∀ s' ∈ automapSteps,
    (s.slot = s'.slot → s = s') ∧ (s.extra.isSome → s.extra = s'.extra → s = s') := by
  decide

lemma index_of_slot {i j : ℕ} {s s' : Step} (hi : automapSteps[i]? = some s)
    (hj : automapSteps[j]? = some s') (h : s.slot = s'.slot) : i = j := by
  have hn : (automapSteps.map Step.slot).Nodup := by decide
  have hlt : i < (automapSteps.map Step.slot).length := by
    rw [List.length_map]
    exact (List.getElem?_eq_some_iff.mp hi).1
  refine (List.getElem?_inj hlt hn).mp ?_
  rw [List.getElem?_map, List.getElem?_map, hi, hj, Option.map_some, Option.map_some, h]

lemma steps_complete (slot : Slot) : ∃ i < automapSteps.length, ∃ step,
    automapSteps[i]? = some step ∧ step.slot = slot := by
  cases slot
  · exact ⟨0, by decide, _, rfl, rfl⟩
  · exact ⟨1, by decide, _, rfl, rfl⟩
  · exact ⟨2, by decide, _, rfl, rfl⟩
  · exact ⟨3, by decide, _, rfl, rfl⟩
  · exact ⟨4, by decide, _, rfl, rfl⟩
  · exact ⟨5, by decide, _, rfl, rfl⟩

lemma slotInv_pending (extras : Extras) : SlotInv (fun _ => {}) extras [] := by
  constructor
  all_goals simp

lemma SlotInv.replace (hi : SlotInv slots extras confirmed) (slot : Slot) {st : SlotState}
    (hm : st.status ≠ .mapped) (hkey : st.status = .captured ↔ st.key.isSome)
    (hw : ∀ key ∈ st.key, Word key) (hconfirmed : slot ∈ confirmed → st.status = .captured) :
    SlotInv (update slots slot st) extras confirmed := by
  constructor
  case keyed =>
    intro other
    rw [Function.update_apply]
    split
    · rw [or_iff_left hm, hkey]
    · exact hi.keyed other
  case words =>
    intro other
    rw [Function.update_apply]
    split
    · exact hw
    · exact hi.words other
  case applied =>
    intro s hs name hn
    rw [Function.update_apply]
    split
    · exact fun h => absurd h hm
    · exact hi.applied s hs name hn
  case mapped =>
    intro other
    rw [Function.update_apply]
    split
    · exact fun h => absurd h hm
    · exact hi.mapped other
  case confirmed =>
    intro other hc
    rw [Function.update_apply]
    split
    · next he => exact .inl (hconfirmed (he ▸ hc))
    · exact hi.confirmed other hc

lemma SlotInv.confirm (hi : SlotInv slots extras confirmed) (hmem : current ∈ automapSteps)
    (hk : (slots current.slot).key = some key) :
    SlotInv (update slots current.slot { status := .mapped, key := some key })
      (applyAutomapResult current key extras) (confirmed ++ [current.slot]) := by
  have hw : Word key := hi.words current.slot key hk
  constructor
  case keyed =>
    intro other
    rw [Function.update_apply]
    split
    · simp
    · exact hi.keyed other
  case words =>
    intro other
    rw [Function.update_apply]
    split
    · simpa using hw
    · exact hi.words other
  case applied =>
    intro s hs name hn hm k hk
    rw [Function.update_apply] at hm hk
    by_cases he : s.slot = current.slot
    · obtain rfl := (steps_distinct s hs current hmem).1 he
      rw [if_pos rfl] at hk
      obtain rfl := Option.some.inj hk
      exact applied_self hn hw extras
    · rw [if_neg he] at hm hk
      refine applied_other ?_ (hi.words s.slot k hk) key (hi.applied s hs name hn hm k hk)
      intro hother
      have hsame := (steps_distinct s hs current hmem).2 (by rw [hn]; rfl) (hn.trans hother.symm)
      exact he (congrArg Step.slot hsame)
  case mapped =>
    intro other
    rw [Function.update_apply]
    split
    · next he => exact fun _ => List.mem_append_right _ (he ▸ List.mem_cons_self)
    · exact fun hm => List.mem_append_left _ (hi.mapped other hm)
  case confirmed =>
    intro other hc
    rw [Function.update_apply]
    split
    · exact .inr rfl
    · next he =>
      rcases List.mem_append.mp hc with hc | hc
      · exact hi.confirmed other hc
      · exact absurd (List.mem_singleton.mp hc) he

lemma settle_spec (hi : SlotInv w.slots w.extras w.confirmed) (hmem : current ∈ automapSteps) :
    SlotInv (settle w current).slots (settle w current).extras (settle w current).confirmed ∧
      (settle w current).index = w.index ∧ (settle w current).toast = w.toast ∧
      Settled ((settle w current).slots current.slot).status ∧
      ∀ other ≠ current.slot, (settle w current).slots other = w.slots other := by
  have hothers : ∀ st : SlotState, ∀ other ≠ current.slot,
      update w.slots current.slot st other = w.slots other :=
    fun st other hne => Function.update_of_ne hne ..
  have hfailed (hc : (w.slots current.slot).status ≠ .captured)
      (hm : (w.slots current.slot).status ≠ .mapped) :
      SlotInv (update w.slots current.slot { status := .failed, key := none }) w.extras
        w.confirmed := by
    refine hi.replace current.slot (by simp) (by simp) (by simp) fun h => ?_
    exact ((hi.confirmed current.slot h).elim hc hm).elim
  have hself : ∀ st : SlotState, Settled st.status →
      Settled (update w.slots current.slot st current.slot).status := by
    intro st hs
    rwa [Function.update_self]
  rw [settle]
  cases hst : (w.slots current.slot).status
  case captured =>
    obtain ⟨key, hk⟩ := Option.isSome_iff_exists.mp ((hi.keyed current.slot).mp (.inl hst))
    dsimp only
    rw [hk, Option.getD_some]
    exact ⟨hi.confirm hmem hk, rfl, rfl, hself _ (.inl rfl), hothers _⟩
  case mapped => exact ⟨hi, rfl, rfl, .inl hst, fun _ _ => rfl⟩
  case pending =>
    exact ⟨hfailed (by simp [hst]) (by simp [hst]), rfl, rfl, hself _ (.inr rfl), hothers _⟩
  case failed =>
    exact ⟨hfailed (by simp [hst]) (by simp [hst]), rfl, rfl, hself _ (.inr rfl), hothers _⟩

lemma count_settled (hi : SlotInv w.slots w.extras w.confirmed)
    (hall : ∀ slot, Settled (w.slots slot).status) : mappedCount w = confirmedCount w := by
  have hiff : ∀ slot, (w.slots slot).status = .mapped ↔ slot ∈ w.confirmed := by
    intro slot
    refine ⟨hi.mapped slot, fun hc => ?_⟩
    rcases hi.confirmed slot hc with h | h
    · rcases hall slot with h' | h' <;> (rw [h] at h'; cases h')
    · exact h
  simp only [mappedCount, confirmedCount, hiff]

lemma Inv.currentStep (hi : Inv w) : ∃ step, automapSteps[w.index]? = some step :=
  ⟨_, List.getElem?_eq_getElem hi.index⟩

lemma Inv.goNext (hi : Inv w) (hshown : w.hidden = false) :
    ∃ t, automapGoNext w = some t ∧ Inv t := by
  obtain ⟨step, hstep⟩ := hi.currentStep
  obtain ⟨hslots, hindex, htoast, hsettled, hothers⟩ :=
    settle_spec hi.slots (List.mem_of_getElem? hstep)
  have hbefore : ∀ i s, i < w.index + 1 → automapSteps[i]? = some s →
      Settled ((settle w step).slots s.slot).status := by
    intro i s hlt hs
    rcases Nat.lt_succ_iff_lt_or_eq.mp hlt with hlt | rfl
    · have hne : s.slot ≠ step.slot := fun he => hlt.ne (index_of_slot hs hstep he)
      rw [hothers s.slot hne]
      exact hi.before i s hlt hs
    · obtain rfl := Option.some.inj (hs.symm.trans hstep)
      exact hsettled
  rw [automapGoNext, hstep, Option.map_some]
  refine ⟨_, rfl, ?_⟩
  dsimp only
  rw [hindex]
  split
  · next hlt =>
    refine ⟨hslots, Nat.add_lt_of_lt_sub hlt, hbefore, fun _ => htoast.trans (hi.shown hshown), ?_⟩
    intro n hn
    rw [htoast, hi.shown hshown] at hn
    cases hn
  · next hlast =>
    have hall : ∀ slot, Settled ((settle w step).slots slot).status := by
      intro slot
      obtain ⟨i, hlt, s, hs, rfl⟩ := steps_complete slot
      exact hbefore i s (by omega) hs
    refine ⟨hslots, hi.index, fun i s hlt hs => hbefore i s (Nat.lt_succ_of_lt hlt) hs,
      by simp, fun n hn => ⟨hall, ?_⟩⟩
    exact (Option.some.inj hn).symm.trans (count_settled hslots hall)

lemma Inv.goPrev (hi : Inv w) : Inv (automapGoPrev w) := by
  rw [automapGoPrev]
  split
  · exact hi
  · refine ⟨hi.slots, (Nat.sub_le _ _).trans_lt hi.index, fun i s hlt hs => ?_, hi.shown, hi.completed⟩
    exact hi.before i s (hlt.trans_le (Nat.sub_le _ _)) hs

lemma inv_reset (w : Wizard) (ht : w.toast = none) : Inv (resetAutomapState w) where
  slots := slotInv_pending w.extras
  index := Nat.zero_lt_succ _
  before _ _ h := absurd h (Nat.not_lt_zero _)
  shown _ := ht
  completed n hn := by
    rw [resetAutomapState, ht] at hn
    cases hn

lemma inv_open (w : Wizard) : Inv (openAutomapModal w) :=
  inv_reset { w with hidden := false, toast := none } rfl

lemma Inv.event (hi : Inv w) {line : String} {parsed : ParsedLine}
    (hp : parseEventLine line = some parsed) : ∃ t, automapHandleEvent w parsed = some t ∧ Inv t := by
  rw [automapHandleEvent]
  split
  · exact ⟨w, rfl, hi⟩
  · next hn =>
    have ht : w.toast = none := hi.shown (Bool.eq_false_iff.mpr fun h => hn (.inl h))
    obtain ⟨step, hstep⟩ := hi.currentStep
    rw [hstep, Option.map_some]
    refine ⟨_, rfl, ?_, hi.index, fun i s hlt hs => ?_, hi.shown, fun n hn => ?_⟩
    · refine hi.slots.replace step.slot (by simp) (by simp) ?_ fun _ => rfl
      rintro key ⟨⟩
      exact key_of_parse hp
    · have hne : s.slot ≠ step.slot := fun he => hlt.ne (index_of_slot hs hstep he)
      have hsame : (setSlot w step.slot { status := .captured, key := some parsed.key }).slots s.slot =
          w.slots s.slot := Function.update_of_ne hne ..
      rw [hsame]
      exact hi.before i s hlt hs
    · rw [setSlot, ht] at hn
      cases hn

lemma Inv.step (hi : Inv w) (input : Input) : ∃ t, step w input = some t ∧ Inv t := by
  cases input with
  | event line =>
    rw [AutomapWizard.step]
    cases hp : parseEventLine line with
    | none => exact ⟨w, rfl, hi⟩
    | some parsed => exact hi.event hp
  | next =>
    rw [AutomapWizard.step]
    split
    · exact ⟨w, rfl, hi⟩
    · next hn => exact hi.goNext (Bool.eq_false_iff.mpr hn)
  | previous =>
    refine ⟨_, rfl, ?_⟩
    split
    · exact hi
    · exact hi.goPrev
  | reset =>
    refine ⟨_, rfl, ?_⟩
    split
    · exact hi
    · next hn => exact inv_reset w (hi.shown (Bool.eq_false_iff.mpr hn))
  | close => exact ⟨_, rfl, hi.slots, hi.index, hi.before, by simp, hi.completed⟩
  | «open» => exact ⟨_, rfl, inv_open w⟩

end Slots

theorem wizard_invariant (extras : Extras) (inputs : List Input) :
    ∃ w, exec step { extras } inputs = some w ∧ w.index < automapSteps.length ∧
      (∀ i step, i < w.index → automapSteps[i]? = some step →
        Settled (w.slots step.slot).status) ∧
      (∀ slot, ((w.slots slot).status = .captured ∨ (w.slots slot).status = .mapped) ↔
        (w.slots slot).key.isSome) ∧
      (∀ step ∈ automapSteps, ∀ name ∈ step.extra, (w.slots step.slot).status = .mapped →
        ∀ key ∈ (w.slots step.slot).key, Applied w.extras name key) ∧
      ∀ n, w.toast = some n →
        (∀ slot, Settled (w.slots slot).status) ∧ n = confirmedCount w := by
  have hstart : Inv { extras } :=
    ⟨slotInv_pending extras, Nat.zero_lt_succ _, fun _ _ h => absurd h (Nat.not_lt_zero _),
      fun _ => rfl, by simp⟩
  obtain ⟨w, hw, hi⟩ := exec_total (fun w input hi => Inv.step hi input) hstart inputs
  exact ⟨w, hw, hi.index, hi.before, hi.slots.keyed, hi.slots.applied, hi.completed⟩

end PointerForce.Bridge.AutomapWizard
