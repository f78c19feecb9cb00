import PointerForce.Bridge.ConfigStore
import PointerForce.Foundations.OutputStream

/-! `ConfigStore::write` when operations of the file system fail. The stream on the temporary file is
checked before it is destroyed, and the rename comes after. -/

namespace PointerForce.Bridge.ConfigWrite

open Foundations ConfigStore

def tmpPath (path : String) : String := path ++ ".tmp"

/-- Which operations fail: opening the temporary file, the low-level writes of the insertion and of
the flush, and the rename with the text of its error. -/
structure Faults where
  openTmp : Bool := false
  insertion : Results := []
  flush : Results := []
  rename : Option String := none

variable (C : Codec) (path : String)

def replace (fs : FileSystem String) (fault : Option String) :
    Except String Unit × FileSystem String :=
  let failed error :=
    (.error ("failed to replace '" ++ path ++ "': " ++ error), fs.remove (tmpPath path))
  match fault with
  | some error => failed error
  | none =>
    match fs.rename (tmpPath path) path with
    | some fs => (.ok (), fs)
    | none => failed "No such file or directory"

def write (fs : FileSystem String) (config : Json) (faults : Faults) :
    Except String Unit × FileSystem String :=
  match validate config with
  | .error error => (.error ("refusing to write invalid config: " ++ error), fs)
  | .ok () =>
    if faults.openTmp then
      (.error ("cannot open '" ++ tmpPath path ++ "' for writing (check directory permissions)"), fs)
    else
      let (fs, file) := fs.openTrunc (tmpPath path)
      let (fs, f) := OutputStream.insert fs { file } (C.streamWriter config) faults.insertion
      let fs := f.destroy fs faults.flush
      if f.bad then (.error ("write to '" ++ tmpPath path ++ "' failed"), fs)
      else replace path fs faults.rename

inductive WriteResult where
  | failed (error : String)
  | replaced (lost : ℕ)

def leftOver (text : Bytes) (lost : ℕ) : Bytes := text.take (text.length - lost)

def WriteResult.Of (fs : FileSystem String) (text : Bytes) : WriteResult →
    Except String Unit × FileSystem String → Prop
  | .failed error, r => r.1 = .error error ∧ r.2.content path = fs.content path
  | .replaced lost, r => r.1 = .ok () ∧ r.2.content path = some (leftOver text lost)

def AllOrNothing (fs : FileSystem String) (config : Json) :
    Except String Unit × FileSystem String → Prop
  | (.ok (), fs') => fs'.content path = some (C.streamWriter config)
  | (.error _, fs') => fs'.content path = fs.content path

/-- A write of the flush fails, and nothing else does. -/
def LosesFlush (config : Json) (faults : Faults) : Prop :=
  let size := (C.streamWriter config).length
  validate config = .ok () ∧ !faults.openTmp ∧ !faults.insertion.refuse size ∧
    faults.flush.refuse (size - faults.insertion.accepted size) ∧ faults.rename = none

section Failures

variable {C path} {fs : FileSystem String} {config : Json} {faults : Faults}

lemma path_ne_tmpPath (path : String) : path ≠ tmpPath path := by
  intro h
  have hl := congrArg String.length h
  simp [tmpPath] at hl

def delivered (content : Bytes) (faults : Faults) : Bytes :=
  let rest := content.drop (faults.insertion.accepted content.length)
  content.take (faults.insertion.accepted content.length) ++
    if faults.flush.refuse rest.length then rest.take (faults.flush.accepted rest.length) else rest

lemma delivered_eq_iff (content : Bytes) (faults : Faults) : delivered content faults = content ↔
    ¬ faults.flush.refuse (content.length - faults.insertion.accepted content.length) := by
  rw [delivered, List.length_drop]
  split
  · next h =>
    refine iff_of_false ?_ (not_not.mpr h)
    intro he
    have hlen := congrArg List.length he
    have hlt := Results.accepted_lt faults.flush _ h
    have hle := Results.accepted_le faults.insertion content.length
    simp only [List.length_append, List.length_take, List.length_drop] at hlen
    omega
  · next h => simp [h]

variable (C path fs)

lemma write_opened (hv : validate config = .ok ()) (ho : faults.openTmp = false) :
    ∃ fs₁ file, fs.openTrunc (tmpPath path) = (fs₁, file) ∧
      write C path fs config faults =
        (let fs₂ := fs₁.setData file (delivered (C.streamWriter config) faults)
        if faults.insertion.refuse (C.streamWriter config).length then
          (.error ("write to '" ++ tmpPath path ++ "' failed"), fs₂)
        else replace path fs₂ faults.rename) := by
  cases hopen : fs.openTrunc (tmpPath path) with
  | mk fs₁ file =>
    refine ⟨fs₁, file, rfl, ?_⟩
    obtain ⟨-, hd, -⟩ := fs.openTrunc_spec (tmpPath path) hopen
    have hempty : fs₁.data file = [] := by simp [hd]
    simp only [write, hv, ho, hopen, Bool.false_eq_true, if_false]
    rw [OutputStream.insert_spec faults.insertion hempty]
    generalize C.streamWriter config = bytes
    have hw : OutputStream.Writes
        { file
          offset := faults.insertion.accepted bytes.length
          buffer := bytes.drop (faults.insertion.accepted bytes.length)
          bad := faults.insertion.refuse bytes.length }
        (fs₁.setData file (bytes.take (faults.insertion.accepted bytes.length)))
        (bytes.take (faults.insertion.accepted bytes.length)) :=
      ⟨by simp, by simp [Results.accepted_le]⟩
    simp only [OutputStream.destroy_spec faults.flush hw, FileSystem.setData_setData]
    rfl

variable {C path fs}

lemma delivered_eq_take (content : Bytes) (faults : Faults) :
    ∃ lost, delivered content faults = leftOver content lost := by
  by_cases h : faults.flush.refuse (content.drop (faults.insertion.accepted content.length)).length
  · refine ⟨content.length - (faults.insertion.accepted content.length +
      faults.flush.accepted (content.drop (faults.insertion.accepted content.length)).length), ?_⟩
    have hle := Results.accepted_le faults.insertion content.length
    have hlt := Results.accepted_lt faults.flush _ h
    rw [List.length_drop] at hlt
    simp only [delivered, if_pos h, leftOver, ← List.take_add]
    congr 1
    rw [List.length_drop]
    omega
  · refine ⟨0, ?_⟩
    rw [delivered, if_neg h, List.take_append_drop, leftOver, Nat.sub_zero, List.take_length]

lemma write_cases (fs : FileSystem String) (faults : Faults) (hv : validate config = .ok ()) :
    (∃ error fs', write C path fs config faults = (.error error, fs') ∧
      fs'.content path = fs.content path ∧ (faults.openTmp = true ∨
        faults.insertion.refuse (C.streamWriter config).length = true ∨ faults.rename ≠ none)) ∨
    ∃ fs', write C path fs config faults = (.ok (), fs') ∧
      fs'.content path = some (delivered (C.streamWriter config) faults) ∧ faults.openTmp = false ∧
        faults.insertion.refuse (C.streamWriter config).length = false ∧ faults.rename = none := by
  cases ho : faults.openTmp with
  | true =>
    left
    simp only [write, hv, ho, if_true]
    exact ⟨_, _, rfl, rfl, .inl trivial⟩
  | false =>
    obtain ⟨fs₁, file, hopen, hw⟩ := write_opened C path fs hv ho
    have hkept := FileSystem.content_openTrunc fs hopen (path_ne_tmpPath path)
      (delivered (C.streamWriter config) faults)
    rw [hw]
    cases hi : faults.insertion.refuse (C.streamWriter config).length with
    | true => exact .inl ⟨_, _, rfl, hkept, .inr (.inl rfl)⟩
    | false =>
      cases hr : faults.rename with
      | some error =>
        exact .inl ⟨_, _, rfl, (FileSystem.content_remove (path_ne_tmpPath path)).trans hkept,
          .inr (.inr (Option.some_ne_none error))⟩
      | none =>
        obtain ⟨he, -⟩ := fs.openTrunc_spec (tmpPath path) hopen
        have hentry : (fs₁.setData file (delivered (C.streamWriter config) faults)).entry
            (tmpPath path) = some file := by
          change fs₁.entry (tmpPath path) = _
          simp [he]
        obtain ⟨fs₂, hren, hc⟩ := FileSystem.content_rename hentry path
        refine .inr ⟨fs₂, ?_, ?_, rfl, rfl, rfl⟩
        · simp [replace, hren]
        · rw [hc, FileSystem.setData_data_self]

/-- How a write ends that gets a valid document: with an error and the file as it was, or with a file
that lacks what the flush has lost at the end of the text. -/
theorem write_result (fs : FileSystem String) (faults : Faults) (hv : validate config = .ok ()) :
    ∃ result : WriteResult, result.Of path fs (C.streamWriter config)
      (write C path fs config faults) := by
  have hcases := @write_cases C path config fs faults hv
  rcases hcases with ⟨error, fs', hw, hkept, -⟩ | ⟨fs', hw, hc, -⟩
  · exact ⟨.failed error, by rw [hw]; exact ⟨rfl, hkept⟩⟩
  · obtain ⟨lost, hlost⟩ := delivered_eq_take (C.streamWriter config) faults
    exact ⟨.replaced lost, by rw [hw]; exact ⟨rfl, hlost ▸ hc⟩⟩

end Failures

theorem all_or_nothing_iff (fs : FileSystem String) (config : Json) (faults : Faults) :
    AllOrNothing C path fs config (write C path fs config faults) ↔ ¬ LosesFlush C config faults := by
  cases hv : validate config with
  | error error => simp [write, hv, AllOrNothing, LosesFlush]
  | ok u =>
    rcases write_cases fs faults hv with ⟨error, fs', hw, hkept, hfault⟩ | ⟨fs', hw, hc, ho, hi, hr⟩
    · rw [hw]
      refine iff_of_true hkept ?_
      rintro ⟨-, ho, hi, -, hr⟩
      rcases hfault with h | h | h
      · simp [h] at ho
      · simp [h] at hi
      · exact h hr
    · rw [hw, AllOrNothing, hc, Option.some.injEq, delivered_eq_iff]
      simp [LosesFlush, hv, ho, hi, hr]

lemma write_without_faults (fs : FileSystem String) {config : Json} (hv : validate config = .ok ()) :
    ∃ fs₁ file fs₂, fs.openTrunc (tmpPath path) = (fs₁, file) ∧
      (fs₁.setData file (C.streamWriter config)).rename (tmpPath path) path = some fs₂ ∧
      write C path fs config {} = (.ok (), fs₂) := by
  obtain ⟨fs₁, file, hopen, hw⟩ := @write_opened C path fs config {} hv rfl
  have hd : delivered (C.streamWriter config) {} = C.streamWriter config :=
    (delivered_eq_iff _ _).mpr (by simp)
  obtain ⟨he, -⟩ := fs.openTrunc_spec (tmpPath path) hopen
  have hentry : (fs₁.setData file (C.streamWriter config)).entry (tmpPath path) = some file := by
    change fs₁.entry (tmpPath path) = _
    simp [he]
  obtain ⟨fs₂, hren, -⟩ := FileSystem.content_rename hentry path
  refine ⟨fs₁, file, fs₂, hopen, hren, ?_⟩
  simp [hw, hd, replace, hren]

def emptyText : Bytes := [0x7b, 0x7d]

def emptyCodec : Codec := .ofTable [(emptyText, .object [])]

theorem truncated_file_reported_ok : ¬ AllOrNothing emptyCodec configPath FileSystem.empty (.object [])
    (write emptyCodec configPath FileSystem.empty (.object []) { flush := [some 1, none] }) := by
  intro h
  cases h

end PointerForce.Bridge.ConfigWrite
