import PointerForce.Bridge.ConfigWrite
import PointerForce.Foundations.Runs

/-! `ConfigStore::write` on several threads, and readers of the file at the same time. Every writer
uses the same temporary file. -/

namespace PointerForce.Bridge.ConcurrentWrites

open Foundations Foundations.Runs ConfigStore ConfigWrite

inductive Writer where
  | waiting
  | writing (file offset : ℕ) (rest : Bytes)
  | closed
  | removing
  | returned (result : Except String Unit)

inductive Reader where
  | waiting
  | reading (file : ℕ) (got : Bytes)
  | finished (got : Bytes)
  | failed

structure State where
  fs : FileSystem String
  writer : ℕ → Writer := fun _ => .waiting
  reader : ℕ → Reader := fun _ => .waiting

inductive Action where
  | openTmp (w : ℕ)
  | put (w n : ℕ)
  | close (w : ℕ)
  | rename (w : ℕ)
  | remove (w : ℕ)
  | openPath (r : ℕ)
  | get (r n : ℕ)

def State.setWriter (s : State) (w : ℕ) (writer : Writer) : State :=
  { s with writer := Function.update s.writer w writer }

def State.setReader (s : State) (r : ℕ) (reader : Reader) : State :=
  { s with reader := Function.update s.reader r reader }

variable (C : Codec) (path : String) (config : ℕ → Json)

def openTmp (s : State) (w : ℕ) : State :=
  match validate (config w) with
  | .error error => s.setWriter w (.returned (.error ("refusing to write invalid config: " ++ error)))
  | .ok () =>
    let (fs, file) := s.fs.openTrunc (tmpPath path)
    { s.setWriter w (.writing file 0 (C.streamWriter (config w))) with fs }

def renameTmp (s : State) (w : ℕ) : State :=
  match s.fs.rename (tmpPath path) path with
  | some fs => { s.setWriter w (.returned (.ok ())) with fs }
  | none => s.setWriter w .removing

def removeTmp (s : State) (w : ℕ) : State :=
  { s.setWriter w (.returned (.error ("failed to replace '" ++ path ++
      "': No such file or directory"))) with fs := s.fs.remove (tmpPath path) }

def openPath (s : State) (r : ℕ) : State :=
  match s.fs.entry path with
  | some file => s.setReader r (.reading file [])
  | none => s.setReader r .failed

def get (s : State) (r file : ℕ) (got : Bytes) (n : ℕ) : State :=
  match ((s.fs.data file).drop got.length).take n with
  -- the end of the file
  | [] => s.setReader r (.finished got)
  | chunk => s.setReader r (.reading file (got ++ chunk))

def step (s : State) : Action → Option State
  | .openTmp w =>
    match s.writer w with
    | .waiting => some (openTmp C path config s w)
    | _ => none
  | .put w n =>
    match s.writer w with
    | .writing file offset rest =>
      if 0 < n ∧ n ≤ rest.length then
        some { s.setWriter w (.writing file (offset + n) (rest.drop n)) with
          fs := s.fs.writeAt file offset (rest.take n) }
      else none
    | _ => none
  | .close w =>
    match s.writer w with
    | .writing _ _ [] => some (s.setWriter w .closed)
    | _ => none
  | .rename w =>
    match s.writer w with
    | .closed => some (renameTmp path s w)
    | _ => none
  | .remove w =>
    match s.writer w with
    | .removing => some (removeTmp path s w)
    | _ => none
  | .openPath r =>
    match s.reader r with
    | .waiting => some (openPath path s r)
    | _ => none
  | .get r n =>
    match s.reader r with
    | .reading file got => if 0 < n then some (get s r file got n) else none
    | _ => none

def Writer.Busy : Writer → Prop
  | .writing _ _ _ | .closed | .removing => True
  | .waiting | .returned _ => False

/-- No call opens the temporary file while another one is between its open and its return. -/
def NoOverlap (s : State) : Action → Prop
  | .openTmp w => validate (config w) = .ok () → ∀ w', w' ≠ w → ¬ (s.writer w').Busy
  | _ => True

def Complete (original : Option Bytes) (s : State) (bytes : Bytes) : Prop :=
  original = some bytes ∨ ∃ w, s.writer w ≠ .waiting ∧ bytes = C.streamWriter (config w)

def Owns (fs : FileSystem String) (w : ℕ) : Writer → Prop
  | .waiting | .returned _ => True
  | .writing file offset rest => fs.entry (tmpPath path) = some file ∧
      offset = (fs.data file).length ∧ fs.data file ++ rest = C.streamWriter (config w)
  | .closed => ∃ file, fs.entry (tmpPath path) = some file ∧ fs.data file = C.streamWriter (config w)
  | .removing => False

def Sees (original : Option Bytes) (s : State) : Reader → Prop
  | .waiting | .failed => True
  | .reading file got => file < s.fs.next ∧ s.fs.entry (tmpPath path) ≠ some file ∧
      Complete C config original s (s.fs.data file) ∧ got <+: s.fs.data file
  | .finished got => Complete C config original s got

structure Inv (original : Option Bytes) (s : State) : Prop where
  published : ∀ file, s.fs.entry path = some file → Complete C config original s (s.fs.data file)
  alone : ∀ w w', (s.writer w).Busy → (s.writer w').Busy → w = w'
  owns : ∀ w, Owns C path config s.fs w (s.writer w)
  sees : ∀ r, Sees C path config original s (s.reader r)

section Steps

variable {C path config} {original : Option Bytes} {s t : State} {w : ℕ}

lemma Complete.mono {bytes : Bytes} (h : Complete C config original s bytes)
    (hw : ∀ w, s.writer w ≠ .waiting → t.writer w ≠ .waiting) :
    Complete C config original t bytes := by
  rcases h with h | ⟨w, hn, he⟩
  · exact .inl h
  · exact .inr ⟨w, hw w hn, he⟩

lemma owns_of_not_busy {fs : FileSystem String} {p : Writer} (h : ¬ p.Busy) :
    Owns C path config fs w p := by
  cases p <;> simp_all [Writer.Busy, Owns]

lemma inv_start (fs : FileSystem String) : Inv C path config (fs.content path) { fs } := by
  constructor <;> simp [Writer.Busy, Owns, Sees]
  intro file hf
  exact .inl (by simp [FileSystem.content, hf])

lemma published_unshared (fs : FileSystem String) {file : ℕ} (h : fs.entry path = some file) :
    fs.entry (tmpPath path) ≠ some file :=
  fun ht => path_ne_tmpPath path (fs.unshared _ _ _ h ht)

lemma setWriter_started {p : Writer} (hp : p ≠ .waiting) (w w' : ℕ) (h : s.writer w' ≠ .waiting) :
    (s.setWriter w p).writer w' ≠ .waiting := by
  by_cases hw : w' = w
  · simpa [State.setWriter, hw] using hp
  · simpa [State.setWriter, hw] using h

lemma Sees.frame {p : Reader} (h : Sees C path config original s p)
    (hmono : ∀ w, s.writer w ≠ .waiting → t.writer w ≠ .waiting) (hnext : s.fs.next ≤ t.fs.next)
    (hkeep : ∀ f, f < s.fs.next → s.fs.entry (tmpPath path) ≠ some f →
      t.fs.data f = s.fs.data f ∧ t.fs.entry (tmpPath path) ≠ some f) :
    Sees C path config original t p := by
  cases p with
  | waiting => trivial
  | failed => trivial
  | finished got => exact Complete.mono h hmono
  | reading file got =>
    obtain ⟨hlt, htmp, hc, hp⟩ := h
    obtain ⟨hd, he⟩ := hkeep file hlt htmp
    exact ⟨hlt.trans_le hnext, he, hd.symm ▸ hc.mono hmono, hd.symm ▸ hp⟩

lemma inv_write (hi : Inv C path config original s) {p : Writer} {fs : FileSystem String}
    (hothers : ∀ w', w' ≠ w → (s.writer w').Busy → ¬ p.Busy ∧ Owns C path config fs w' (s.writer w'))
    (hstarted : p ≠ .waiting)
    (howns : Owns C path config fs w p) (hnext : s.fs.next ≤ fs.next)
    (hkeep : ∀ f, f < s.fs.next → s.fs.entry (tmpPath path) ≠ some f →
      fs.data f = s.fs.data f ∧ fs.entry (tmpPath path) ≠ some f)
    (hpath : ∀ f, fs.entry path = some f →
      s.fs.entry path = some f ∨ fs.data f = C.streamWriter (config w)) :
    Inv C path config original { s.setWriter w p with fs } := by
  have hself : ({ s.setWriter w p with fs } : State).writer w = p := by simp [State.setWriter]
  have hne : ∀ w', w' ≠ w → ({ s.setWriter w p with fs } : State).writer w' = s.writer w' := by
    intro w' h
    simp [State.setWriter, h]
  have hmono := setWriter_started (s := s) hstarted w
  constructor
  · intro f hf
    rcases hpath f hf with hs | hd
    · rw [(hkeep f (s.fs.fresh path f hs) (published_unshared s.fs hs)).1]
      exact (hi.published f hs).mono hmono
    · exact .inr ⟨w, by rwa [hself], hd⟩
  · intro w₁ w₂ h₁ h₂
    by_cases hw₁ : w₁ = w <;> by_cases hw₂ : w₂ = w
    · rw [hw₁, hw₂]
    · rw [hw₁, hself] at h₁
      exact absurd h₁ (hothers w₂ hw₂ (hne w₂ hw₂ ▸ h₂)).1
    · rw [hw₂, hself] at h₂
      exact absurd h₂ (hothers w₁ hw₁ (hne w₁ hw₁ ▸ h₁)).1
    · exact hi.alone w₁ w₂ (hne w₁ hw₁ ▸ h₁) (hne w₂ hw₂ ▸ h₂)
  · intro w'
    by_cases hw : w' = w
    · subst hw
      rwa [hself]
    · rw [hne w' hw]
      by_cases hb : (s.writer w').Busy
      · exact (hothers w' hw hb).2
      · exact owns_of_not_busy hb
  · intro r
    exact (hi.sees r).frame hmono hnext hkeep

lemma sees_setReader {r : ℕ} {p q : Reader} :
    Sees C path config original (s.setReader r p) q ↔ Sees C path config original s q := by
  cases q <;> exact Iff.rfl

lemma inv_read (hi : Inv C path config original s) {r : ℕ} {p : Reader}
    (hp : Sees C path config original s p) : Inv C path config original (s.setReader r p) := by
  refine ⟨hi.published, hi.alone, hi.owns, ?_⟩
  intro r'
  rw [sees_setReader]
  by_cases hr : r' = r
  · simpa [State.setReader, hr] using hp
  · simpa [State.setReader, hr] using hi.sees r'

lemma Inv.others (hi : Inv C path config original s) (hb : (s.writer w).Busy) {p : Writer}
    {fs : FileSystem String} (w' : ℕ) (hne : w' ≠ w) (hb' : (s.writer w').Busy) :
    ¬ p.Busy ∧ Owns C path config fs w' (s.writer w') := absurd (hi.alone w' w hb' hb) hne

lemma inv_refused (hi : Inv C path config original s) (result : Except String Unit) :
    Inv C path config original (s.setWriter w (.returned result)) :=
  inv_write hi (fun w' _ _ => ⟨id, hi.owns w'⟩) (by simp) trivial le_rfl
    (fun f _ hf => ⟨rfl, hf⟩) fun f hf => .inl hf

lemma inv_openTmp (hi : Inv C path config original s)
    (hguard : NoOverlap config s (.openTmp w)) :
    Inv C path config original (openTmp C path config s w) := by
  rw [openTmp]
  split
  · exact inv_refused hi _
  · next hv =>
    cases ho : s.fs.openTrunc (tmpPath path) with
    | mk fs file =>
      obtain ⟨he, hd, hn, hf⟩ := s.fs.openTrunc_spec (tmpPath path) ho
      refine inv_write hi (fun w' hne hb => absurd hb (hguard hv w' hne)) (by simp) ⟨?_, ?_, ?_⟩ hn ?_ ?_
      · simp [he]
      · simp [hd]
      · simp [hd]
      · intro f hlt ht
        have hne := hf f hlt ht
        exact ⟨by simp [hd, hne], by simpa [he] using hne.symm⟩
      · intro f hp
        rw [he, Function.update_of_ne (path_ne_tmpPath path)] at hp
        exact .inl hp

lemma inv_put (hi : Inv C path config original s) {file offset n : ℕ} {rest : Bytes}
    (hw : s.writer w = .writing file offset rest) (hn : n ≤ rest.length) :
    Inv C path config original { s.setWriter w (.writing file (offset + n) (rest.drop n)) with
      fs := s.fs.writeAt file offset (rest.take n) } := by
  have howns := hi.owns w
  rw [hw] at howns
  obtain ⟨ht, rfl, hc⟩ := howns
  have hdata : (s.fs.writeAt file (s.fs.data file).length (rest.take n)).data =
      Function.update s.fs.data file (s.fs.data file ++ rest.take n) := by
    simp only [FileSystem.writeAt, FileSystem.setData, FileSystem.overwrite_end]
  refine inv_write hi (hi.others (by rw [hw]; trivial)) (by simp) ⟨ht, ?_, ?_⟩ le_rfl ?_ ?_
  · simp [hdata, hn]
  · simp [hdata, hc]
  · intro f _ hf
    have hne : f ≠ file := by
      rintro rfl
      exact hf ht
    exact ⟨by simp [hdata, hne], hf⟩
  · intro f hf
    exact .inl hf

lemma inv_close (hi : Inv C path config original s) {file offset : ℕ}
    (hw : s.writer w = .writing file offset []) :
    Inv C path config original (s.setWriter w .closed) := by
  have howns := hi.owns w
  rw [hw] at howns
  obtain ⟨ht, -, hc⟩ := howns
  exact inv_write hi (hi.others (by rw [hw]; trivial)) (by simp) ⟨file, ht, by simpa using hc⟩ le_rfl
    (fun f _ hf => ⟨rfl, hf⟩) fun f hf => .inl hf

lemma inv_renameTmp (hi : Inv C path config original s) (hw : s.writer w = .closed) :
    Inv C path config original (renameTmp path s w) := by
  have howns := hi.owns w
  rw [hw] at howns
  obtain ⟨file, ht, hc⟩ := howns
  obtain ⟨fs, hr, hd, hn, he⟩ := FileSystem.rename_some ht path
  rw [renameTmp, hr]
  refine inv_write hi (hi.others (by rw [hw]; trivial)) (by simp) trivial hn.ge ?_ ?_
  · intro f _ hf
    refine ⟨by rw [hd], ?_⟩
    simp [he, (path_ne_tmpPath path).symm]
  · intro f hf
    obtain rfl : file = f := by simpa [he] using hf
    exact .inr (hd ▸ hc)

lemma inv_openPath (hi : Inv C path config original s) (r : ℕ) :
    Inv C path config original (openPath path s r) := by
  rw [openPath]
  split
  · next file hf =>
    exact inv_read hi ⟨s.fs.fresh path file hf, published_unshared s.fs hf, hi.published file hf,
      List.nil_prefix⟩
  · exact inv_read hi trivial

lemma inv_get (hi : Inv C path config original s) {r file n : ℕ} {got : Bytes}
    (hr : s.reader r = .reading file got) (hn : 0 < n) :
    Inv C path config original (get s r file got n) := by
  have hs := hi.sees r
  rw [hr] at hs
  obtain ⟨hlt, ht, hc, rest, hp⟩ := hs
  have hdrop : (s.fs.data file).drop got.length = rest := by simp [← hp]
  rw [get, hdrop]
  split
  · next hnil =>
    have hrest : rest = [] := by
      rcases List.take_eq_nil_iff.mp hnil with h | h
      · omega
      · exact h
    refine inv_read hi ?_
    have he : got = s.fs.data file := by simpa [hrest] using hp
    exact he ▸ hc
  · refine inv_read hi ⟨hlt, ht, hc, rest.drop n, ?_⟩
    rw [List.append_assoc, List.take_append_drop, hp]

lemma inv_step {a : Action} (hi : Inv C path config original s) (hguard : NoOverlap config s a)
    (h : step C path config s a = some t) : Inv C path config original t := by
  cases a with
  | openTmp w =>
    cases hw : s.writer w <;> simp only [step, hw, Option.some.injEq, reduceCtorEq] at h
    exact h ▸ inv_openTmp hi hguard
  | put w n =>
    cases hw : s.writer w <;> simp only [step, hw, Option.ite_none_right_eq_some,
      Option.some.injEq, reduceCtorEq] at h
    exact h.2 ▸ inv_put hi hw h.1.2
  | close w =>
    cases hw : s.writer w with
    | writing file offset rest =>
      cases rest with
      | nil =>
        simp only [step, hw, Option.some.injEq] at h
        exact h ▸ inv_close hi hw
      | cons b rest => simp [step, hw] at h
    | _ => simp [step, hw] at h
  | rename w =>
    cases hw : s.writer w <;> simp only [step, hw, Option.some.injEq, reduceCtorEq] at h
    exact h ▸ inv_renameTmp hi hw
  | remove w =>
    have howns := hi.owns w
    cases hw : s.writer w <;> simp only [step, hw, reduceCtorEq] at h
    rw [hw] at howns
    exact howns.elim
  | openPath r =>
    cases hr : s.reader r <;> simp only [step, hr, Option.some.injEq, reduceCtorEq] at h
    exact h ▸ inv_openPath hi r
  | get r n =>
    cases hr : s.reader r <;> simp only [step, hr, Option.ite_none_right_eq_some,
      Option.some.injEq, reduceCtorEq] at h
    exact h.2 ▸ inv_get hi hr h.1

end Steps

theorem reads_complete (fs : FileSystem String) (as : List Action) (t : State)
    (hrun : exec (step C path config) { fs } as = some t)
    (hguard : Guarded (step C path config) (NoOverlap config) { fs } as) (r : ℕ) (bytes : Bytes)
    (hr : t.reader r = .finished bytes) : Complete C config (fs.content path) t bytes := by
  have hi : Inv C path config (fs.content path) t :=
    guarded_invariant (fun _ _ _ => inv_step) (inv_start fs) hguard hrun
  have hs := hi.sees r
  rwa [hr] at hs

section Alone

variable {C path config} {w : ℕ}

lemma step_put {s : State} {file n : ℕ} {rest : Bytes}
    (hw : s.writer w = .writing file (s.fs.data file).length rest) (hn : 0 < n)
    (hle : n ≤ rest.length) : step C path config s (.put w n) =
      some { s.setWriter w (.writing file (s.fs.data file ++ rest.take n).length (rest.drop n)) with
        fs := s.fs.setData file (s.fs.data file ++ rest.take n) } := by
  simp [step, hw, hn, hle, FileSystem.writeAt, FileSystem.overwrite_end]

lemma exec_puts {s : State} {file : ℕ} {rest : Bytes} {ns : List ℕ}
    (hw : s.writer w = .writing file (s.fs.data file).length rest) (hpos : ∀ n ∈ ns, 0 < n)
    (hsum : ns.sum = rest.length) : exec (step C path config) s (ns.map (.put w)) =
      some { s.setWriter w (.writing file (s.fs.data file ++ rest).length []) with
        fs := s.fs.setData file (s.fs.data file ++ rest) } := by
  induction ns generalizing s rest with
  | nil =>
    obtain rfl : rest = [] := List.length_eq_zero_iff.mp hsum.symm
    have hself : s.setWriter w (.writing file (s.fs.data file).length []) = s := by
      rw [State.setWriter, ← hw, Function.update_eq_self]
    simp [hself]
  | cons n ns ih =>
    have hn := hpos n List.mem_cons_self
    have hle : n ≤ rest.length := by simp only [List.sum_cons] at hsum; omega
    have hrest : ns.sum = (rest.drop n).length := by
      simp only [List.sum_cons] at hsum
      rw [List.length_drop]
      omega
    rw [List.map_cons, exec, step_put hw hn hle, Option.bind_some,
      ih (by simp [State.setWriter]) (fun m hm => hpos m (List.mem_cons_of_mem n hm)) hrest]
    simp [State.setWriter]

lemma exec_close_rename {s : State} {file offset : ℕ} {fs : FileSystem String}
    (hw : s.writer w = .writing file offset [])
    (hren : s.fs.rename (tmpPath path) path = some fs) :
    exec (step C path config) s [.close w, .rename w] =
      some { s.setWriter w (.returned (.ok ())) with fs } := by
  simp [exec, step, hw, State.setWriter, renameTmp, hren]

theorem exec_alone (fs : FileSystem String) (hv : validate (config w) = .ok ()) {ns : List ℕ}
    (hpos : ∀ n ∈ ns, 0 < n) (hsum : ns.sum = (C.streamWriter (config w)).length) :
    ∃ t, exec (step C path config) { fs }
        ([.openTmp w] ++ ns.map (.put w) ++ [.close w, .rename w]) = some t ∧
      t.writer w = .returned (write C path fs (config w) {}).1 ∧
      t.fs = (write C path fs (config w) {}).2 := by
  obtain ⟨fs₁, file, fs₂, hopen, hren, hwrite⟩ := write_without_faults C path fs hv
  obtain ⟨-, hd, -⟩ := fs.openTrunc_spec (tmpPath path) hopen
  have hempty : fs₁.data file = [] := by simp [hd]
  rw [hwrite]
  generalize hbytes : C.streamWriter (config w) = bytes at hsum hren
  let s₁ : State := { ({ fs } : State).setWriter w (.writing file 0 bytes) with fs := fs₁ }
  have hs₁ : step C path config { fs } (.openTmp w) = some s₁ := by
    simp [step, openTmp, hv, hopen, hbytes, s₁]
  have hw₁ : s₁.writer w = .writing file (s₁.fs.data file).length bytes := by
    simp [s₁, State.setWriter, hempty]
  have hdata : s₁.fs.data file ++ bytes = bytes := by simp [s₁, hempty]
  let s₂ : State :=
    { s₁.setWriter w (.writing file bytes.length []) with fs := fs₁.setData file bytes }
  have hs₂ : exec (step C path config) s₁ (ns.map (.put w)) = some s₂ := by
    rw [exec_puts hw₁ hpos hsum, hdata]
  have hw₂ : s₂.writer w = .writing file bytes.length [] := by simp [s₂, State.setWriter]
  have hend := exec_append.mpr ⟨s₂, hs₂, exec_close_rename hw₂ hren⟩
  refine ⟨_, exec_cons.mpr ⟨s₁, hs₁, hend⟩, ?_, rfl⟩
  simp [State.setWriter]

end Alone

section Runs

def oneFile : FileSystem String := (FileSystem.empty.create configPath).setData 0 emptyText

def debugDocument (on : Bool) : Json := .object [("debug", .bool on)]

def debugText (on : Bool) : Bytes :=
  utf8 ("\x7b\n  \"debug\" : " ++ (if on then "true" else "false") ++ "\n\x7d")

def debugCodec : Codec := .ofTable
  [(debugText true, debugDocument true), (debugText false, debugDocument false)]

def debugConfig (w : ℕ) : Json := debugDocument (w = 0)

-- the second call replaces the file while a reader is half through the first one's
def successiveWrites : List Action := [.openTmp 0, .put 0 8, .put 0 12, .close 0, .rename 0,
  .openPath 0, .get 0 5, .openTmp 1, .put 1 21, .get 0 3, .close 1, .rename 1, .get 0 64, .get 0 64,
  .openPath 1, .get 1 64, .get 1 64]

theorem successive_writes_read : ∃ t, exec (step debugCodec configPath debugConfig)
    { fs := oneFile } successiveWrites = some t ∧ t.reader 0 = .finished (debugText true) ∧
      t.reader 1 = .finished (debugText false) ∧
    Complete debugCodec debugConfig (oneFile.content configPath) t (debugText true) := by
  refine ⟨_, rfl, rfl, rfl, ?_⟩
  refine reads_complete debugCodec configPath debugConfig oneFile successiveWrites _ rfl ?_ 0 _ rfl
  refine guarded_cons (fun _ _ _ => id) rfl ?_
  iterate 6 refine guarded_cons trivial rfl ?_
  refine guarded_cons (fun _ w' hne => ?_) rfl ?_
  · rcases w' with _ | _ | w'
    · exact id
    · exact absurd rfl hne
    · exact id
  · iterate 9 refine guarded_cons trivial rfl ?_
    trivial

theorem empty_file_is_read : ∃ t, exec (step emptyCodec configPath fun _ => .object [])
    { fs := oneFile } [.openTmp 0, .put 0 2, .close 0, .openTmp 1, .rename 0,
      .openPath 0, .get 0 4] = some t ∧ t.reader 0 = .finished [] ∧
    ¬ Complete emptyCodec (fun _ => .object []) (oneFile.content configPath) t [] := by
  refine ⟨_, rfl, rfl, ?_⟩
  rintro (h | ⟨w, -, h⟩)
  · cases h
  · cases h

end Runs

end PointerForce.Bridge.ConcurrentWrites
