import PointerForce.Foundations.Json

/-! A file system with one directory. Names point to files, and a file that has lost its name stays
readable and writable through the descriptors that are open on it. -/

namespace PointerForce.Foundations

/-- No file has two names, and the number `next` is not in use. -/
structure FileSystem (Name : Type) where
  entry : Name → Option ℕ
  data : ℕ → Bytes
  next : ℕ
  fresh : ∀ name file, entry name = some file → file < next
  unshared : ∀ a b file, entry a = some file → entry b = some file → a = b

namespace FileSystem

variable {Name : Type} [DecidableEq Name] (fs : FileSystem Name)

def content (name : Name) : Option Bytes := (fs.entry name).map fs.data

def empty : FileSystem Name where
  entry _ := none
  data _ := []
  next := 0
  fresh := by simp
  unshared := by simp

def create (name : Name) : FileSystem Name where
  entry := Function.update fs.entry name (some fs.next)
  data := Function.update fs.data fs.next []
  next := fs.next + 1
  fresh := by
    intro a file h
    by_cases ha : a = name
    · subst ha
      obtain rfl : fs.next = file := by simpa using h
      exact Nat.lt_succ_self _
    · exact Nat.lt_succ_of_lt (fs.fresh a file (by simpa [ha] using h))
  unshared := by
    intro a b file ha hb
    have hn : ∀ c, fs.entry c ≠ some fs.next := fun c h => lt_irrefl _ (fs.fresh c _ h)
    by_cases hac : a = name <;> by_cases hbc : b = name <;>
      simp only [Function.update_apply, hac, hbc, if_true, if_false, Option.some.injEq] at ha hb ⊢
    · exact absurd (ha ▸ hb) (hn b)
    · exact absurd (hb ▸ ha) (hn a)
    · exact fs.unshared a b file ha hb

def setData (file : ℕ) (bytes : Bytes) : FileSystem Name :=
  { fs with data := Function.update fs.data file bytes }

def openTrunc (name : Name) : FileSystem Name × ℕ :=
  match fs.entry name with
  | some file => (fs.setData file [], file)
  | none => (fs.create name, fs.next)

def overwrite (old : Bytes) (offset : ℕ) (bytes : Bytes) : Bytes :=
  (old ++ List.replicate (offset - old.length) 0).take offset ++ bytes ++
    old.drop (offset + bytes.length)

def writeAt (file offset : ℕ) (bytes : Bytes) : FileSystem Name :=
  fs.setData file (overwrite (fs.data file) offset bytes)

def remove (name : Name) : FileSystem Name where
  entry := Function.update fs.entry name none
  data := fs.data
  next := fs.next
  fresh := by
    intro a file h
    by_cases ha : a = name
    · simp [ha] at h
    · exact fs.fresh a file (by simpa [ha] using h)
  unshared := by
    intro a b file ha hb
    by_cases hac : a = name
    · simp [hac] at ha
    · by_cases hbc : b = name
      · simp [hbc] at hb
      · exact fs.unshared a b file (by simpa [hac] using ha) (by simpa [hbc] using hb)

lemma remove_unnamed {source : Name} {file : ℕ} (h : fs.entry source = some file) (a : Name) :
    (fs.remove source).entry a ≠ some file := by
  intro ha
  by_cases has : a = source
  · simp [remove, has] at ha
  · exact has (fs.unshared a source file (by simpa [remove, has] using ha) h)

def rename (source target : Name) : Option (FileSystem Name) :=
  match h : fs.entry source with
  | none => none
  | some file => some
    { entry := Function.update (fs.remove source).entry target (some file)
      data := fs.data
      next := fs.next
      fresh := by
        intro a f ha
        by_cases hat : a = target
        · obtain rfl : file = f := by simpa [hat] using ha
          exact fs.fresh source file h
        · exact (fs.remove source).fresh a f (by simpa [hat] using ha)
      unshared := by
        intro a b f ha hb
        have hn := fs.remove_unnamed h
        by_cases hat : a = target <;> by_cases hbt : b = target <;>
          simp only [Function.update_apply, hat, hbt, if_true, if_false, Option.some.injEq] at ha hb ⊢
        · exact absurd (ha ▸ hb) (hn b)
        · exact absurd (hb ▸ ha) (hn a)
        · exact (fs.remove source).unshared a b f ha hb }

section Lemmas

variable {fs}

omit [DecidableEq Name]

@[simp] lemma setData_data_self (file : ℕ) (bytes : Bytes) :
    (fs.setData file bytes).data file = bytes := by
  simp [setData]

@[simp] lemma setData_setData (file : ℕ) (a b : Bytes) :
    (fs.setData file a).setData file b = fs.setData file b := by
  simp [setData]

@[simp] lemma setData_eq_self (file : ℕ) : fs.setData file (fs.data file) = fs := by
  simp [setData]

lemma overwrite_end (old bytes : Bytes) : overwrite old old.length bytes = old ++ bytes := by
  simp [overwrite]

end Lemmas

section Names

variable {fs}

lemma rename_some {source : Name} {file : ℕ} (h : fs.entry source = some file) (target : Name) :
    ∃ fs', fs.rename source target = some fs' ∧ fs'.data = fs.data ∧
      fs'.next = fs.next ∧
      fs'.entry = Function.update (Function.update fs.entry source none) target (some file) := by
  rw [rename]
  split
  · next hn => simp [h] at hn
  · next hf =>
    obtain rfl := Option.some.inj (hf.symm.trans h)
    exact ⟨_, rfl, rfl, rfl, rfl⟩

lemma openTrunc_spec (fs : FileSystem Name) (name : Name) {fs' : FileSystem Name} {file : ℕ}
    (h : fs.openTrunc name = (fs', file)) :
    fs'.entry = Function.update fs.entry name (some file) ∧
    fs'.data = Function.update fs.data file [] ∧ fs.next ≤ fs'.next ∧
    ∀ f, f < fs.next → fs.entry name ≠ some f → f ≠ file := by
  rw [openTrunc] at h
  cases hn : fs.entry name with
  | none =>
    rw [hn] at h
    obtain ⟨rfl, rfl⟩ := Prod.mk.inj h
    exact ⟨rfl, rfl, Nat.le_succ _, fun f hf _ => hf.ne⟩
  | some old =>
    rw [hn] at h
    obtain ⟨rfl, rfl⟩ := Prod.mk.inj h
    refine ⟨?_, rfl, le_rfl, fun f _ hf he => hf (congrArg some he.symm)⟩
    rw [← hn, Function.update_eq_self]
    rfl

lemma content_openTrunc (fs : FileSystem Name) {name other : Name} {fs' : FileSystem Name}
    {file : ℕ} (h : fs.openTrunc name = (fs', file)) (hne : other ≠ name) (bytes : Bytes) :
    (fs'.setData file bytes).content other = fs.content other := by
  obtain ⟨he, hd, -, hf⟩ := fs.openTrunc_spec name h
  have hentry : (fs'.setData file bytes).entry other = fs.entry other := by
    change fs'.entry other = _
    rw [he, Function.update_of_ne hne]
  simp only [content, hentry]
  cases ho : fs.entry other with
  | none => rfl
  | some f =>
    have hff : f ≠ file := hf f (fs.fresh other f ho) fun hn => hne (fs.unshared _ _ _ ho hn)
    simp [setData, hd, hff]

lemma content_remove {name other : Name} (hne : other ≠ name) :
    (fs.remove name).content other = fs.content other := by
  simp [content, remove, hne]

lemma content_rename {source : Name} {file : ℕ} (h : fs.entry source = some file) (target : Name) :
    ∃ fs', fs.rename source target = some fs' ∧ fs'.content target = some (fs.data file) := by
  obtain ⟨fs', hr, hd, -, he⟩ := rename_some h target
  exact ⟨fs', hr, by simp [content, he, hd]⟩

end Names

end FileSystem

end PointerForce.Foundations
