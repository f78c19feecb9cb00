import PointerForce.Foundations.FileSystem

/-! Output streams with a buffer. The bytes that are inserted reach the file by low-level writes, each
of which accepts some of them or fails; what is still buffered is written when the stream is
destroyed, and a failure at that time is not reported. -/

namespace PointerForce.Foundations

/-- The results of consecutive low-level writes: the number of bytes accepted, or a failure. -/
abbrev Results := List (Option ℕ)

def Results.refuse : Results → ℕ → Bool
  | _, 0 => false
  | [], _ => false
  | none :: _, _ => true
  | some k :: results, n => Results.refuse results (n - k)

def Results.accepted : Results → ℕ → ℕ
  | _, 0 => 0
  | [], _ => 0
  | none :: _, _ => 0
  | some k :: results, n => min k n + Results.accepted results (n - k)

namespace Results

variable (results : Results) (n k : ℕ)

@[simp] lemma refuse_zero : results.refuse 0 = false := by cases results <;> rfl

@[simp] lemma refuse_nil : refuse [] n = false := by cases n <;> rfl

@[simp] lemma accepted_zero : results.accepted 0 = 0 := by cases results <;> rfl

lemma refuse_some : refuse (some k :: results) n = results.refuse (n - k) := by
  cases n with
  | zero => simp
  | succ n => rfl

lemma accepted_some : accepted (some k :: results) n = min k n + results.accepted (n - k) := by
  cases n with
  | zero => simp
  | succ n => rfl

lemma accepted_le : results.accepted n ≤ n := by
  induction results generalizing n with
  | nil => cases n <;> simp [accepted]
  | cons result results ih =>
    cases result with
    | none => cases n <;> simp [accepted]
    | some k =>
      rw [accepted_some]
      have := ih (n - k)
      omega

lemma accepted_lt (h : results.refuse n) : results.accepted n < n := by
  induction results generalizing n with
  | nil => simp at h
  | cons result results ih =>
    cases result with
    | none => cases n <;> simp_all [refuse, accepted]
    | some k =>
      rw [refuse_some] at h
      rw [accepted_some]
      have := ih (n - k) h
      omega

end Results

structure OutputStream where
  file : ℕ
  offset : ℕ := 0
  buffer : Bytes := []
  bad : Bool := false

namespace OutputStream

variable {Name : Type}

def drain (fs : FileSystem Name) (f : OutputStream) : Results → FileSystem Name × OutputStream
  | [] => (fs, f)
  | result :: results =>
    if f.buffer = [] then (fs, f)
    else match result with
      | none => (fs, { f with bad := true })
      | some k =>
        drain (fs.writeAt f.file f.offset (f.buffer.take k))
          { f with offset := f.offset + min k f.buffer.length, buffer := f.buffer.drop k } results

def insert (fs : FileSystem Name) (f : OutputStream) (bytes : Bytes) (results : Results) :
    FileSystem Name × OutputStream :=
  drain fs { f with buffer := f.buffer ++ bytes } results

def destroy (fs : FileSystem Name) (f : OutputStream) (results : Results) : FileSystem Name :=
  let (fs, f) := drain fs { f with bad := false } results
  if f.bad then fs else fs.writeAt f.file f.offset f.buffer

def Writes (f : OutputStream) (fs : FileSystem Name) (written : Bytes) : Prop :=
  fs.data f.file = written ∧ f.offset = written.length

lemma writeAt_end {fs : FileSystem Name} {f : OutputStream} {written : Bytes}
    (h : f.Writes fs written) (bytes : Bytes) :
    fs.writeAt f.file f.offset bytes = fs.setData f.file (written ++ bytes) := by
  rw [FileSystem.writeAt, h.1, h.2, FileSystem.overwrite_end]

lemma take_drop_min (bytes : Bytes) (k n : ℕ) :
    bytes.take (min k bytes.length + n) = bytes.take k ++ (bytes.drop k).take n ∧
      bytes.drop (min k bytes.length + n) = (bytes.drop k).drop n := by
  rcases le_total k bytes.length with h | h
  · rw [min_eq_left h, List.take_add, List.drop_drop]
    exact ⟨rfl, rfl⟩
  · simp [List.take_of_length_le, List.drop_eq_nil_of_le, h]

lemma drain_spec (results : Results) {fs : FileSystem Name} {f : OutputStream} {written : Bytes}
    (h : f.Writes fs written) : drain fs f results =
      (fs.setData f.file (written ++ f.buffer.take (results.accepted f.buffer.length)),
        { f with
          offset := f.offset + results.accepted f.buffer.length
          buffer := f.buffer.drop (results.accepted f.buffer.length)
          bad := f.bad || results.refuse f.buffer.length }) := by
  induction results generalizing fs f written with
  | nil =>
    have hd : written = fs.data f.file := h.1.symm
    cases hb : f.buffer.length <;> simp [drain, Results.accepted, hd]
  | cons result results ih =>
    by_cases hb : f.buffer = []
    · have hd : written = fs.data f.file := h.1.symm
      cases f
      simp_all [drain]
    · obtain ⟨n, hn⟩ := Nat.exists_eq_succ_of_ne_zero (mt List.length_eq_zero_iff.mp hb)
      cases result with
      | none =>
        have hd : written = fs.data f.file := h.1.symm
        simp [drain, hb, hn, Results.accepted, Results.refuse, hd]
      | some k =>
        have hw : Writes { f with
            offset := f.offset + min k f.buffer.length, buffer := f.buffer.drop k }
            (fs.setData f.file (written ++ f.buffer.take k)) (written ++ f.buffer.take k) :=
          ⟨by simp, by simp [h.2]⟩
        rw [drain, if_neg hb]
        simp only [writeAt_end h, ih hw, FileSystem.setData_setData, List.length_drop,
          Results.accepted_some, Results.refuse_some, List.append_assoc, Nat.add_assoc]
        rw [(take_drop_min _ _ _).1, (take_drop_min _ _ _).2]

lemma insert_spec (results : Results) {fs : FileSystem Name} {file : ℕ} (h : fs.data file = [])
    (bytes : Bytes) : insert fs { file } bytes results =
      (fs.setData file (bytes.take (results.accepted bytes.length)),
        { file
          offset := results.accepted bytes.length
          buffer := bytes.drop (results.accepted bytes.length)
          bad := results.refuse bytes.length }) := by
  have hw : Writes { file, buffer := bytes } fs [] := ⟨h, rfl⟩
  simp [insert, drain_spec results hw]

lemma destroy_spec (results : Results) {fs : FileSystem Name} {f : OutputStream} {written : Bytes}
    (h : f.Writes fs written) : destroy fs f results = fs.setData f.file (written ++
      if results.refuse f.buffer.length then f.buffer.take (results.accepted f.buffer.length)
      else f.buffer) := by
  have hw : Writes { f with bad := false } fs written := h
  rw [destroy, drain_spec results hw]
  cases hr : results.refuse f.buffer.length with
  | true => simp
  | false =>
    have hw' : Writes { f with
        offset := f.offset + results.accepted f.buffer.length
        buffer := f.buffer.drop (results.accepted f.buffer.length) }
        (fs.setData f.file (written ++ f.buffer.take (results.accepted f.buffer.length)))
        (written ++ f.buffer.take (results.accepted f.buffer.length)) :=
      ⟨by simp, by simp [h.2, results.accepted_le]⟩
    simp only [Bool.false_or, Bool.false_eq_true, if_false]
    exact (writeAt_end hw' _).trans (by simp)

end OutputStream

end PointerForce.Foundations
