import PointerForce.Bridge.DeviceEndpoints
import PointerForce.Foundations.Runs

/-! Two edits of the configuration file on different threads. Nothing keeps a request from reading
the file while another one is about to write it. -/

namespace PointerForce.Bridge.ConcurrentEdits

open Foundations Foundations.Faults Foundations.Runs ConfigStore DeviceEndpoints

inductive Party where
  | first
  | second
  deriving DecidableEq, Repr

def Party.other : Party → Party
  | .first => .second
  | .second => .first

inductive Phase where
  | waiting
  | holding (edit : Edit) (cfg : Json)
  | edited (cfg : Json)
  | written (cfg : Json)
  | failed (failure : Failure)

structure State where
  file : Option Bytes
  phase : Party → Phase := fun _ => .waiting
  writer : Option Party := none

inductive Action where
  | read (i : Party)
  | modify (i : Party)
  | write (i : Party) (fault : Option String)

def State.goto (s : State) (i : Party) (phase : Phase) : State :=
  { s with phase := Function.update s.phase i phase }

variable (C : Codec)

def State.wrote (s : State) (i : Party) (cfg : Json) : State :=
  { s.goto i (.written cfg) with file := some (C.streamWriter cfg), writer := some i }

def afterRead (request : Request) (file : Option Bytes) : Phase :=
  match prepare request with
  | .error failure => .failed failure
  | .ok edit =>
    match refusing 500 "failed to read config: " (ConfigStore.read C configPath file) with
    | .error failure => .failed failure
    | .ok cfg => .holding edit cfg

def afterModify (edit : Edit) (cfg : Json) : Phase :=
  match edit.apply cfg with
  | .error failure => .failed failure
  | .ok cfg => .edited cfg

def step (request : Party → Request) (s : State) : Action → Option State
  | .read i =>
    match s.phase i with
    | .waiting => some (s.goto i (afterRead C (request i) s.file))
    | _ => none
  | .modify i =>
    match s.phase i with
    | .holding edit cfg => some (s.goto i (afterModify edit cfg))
    | _ => none
  | .write i fault =>
    match s.phase i with
    | .edited cfg =>
      match checkWrite cfg, fault with
      | .error failure, _ => some (s.goto i (.failed failure))
      | .ok (), some error =>
        some (s.goto i (.failed (.answered 500 ("failed to write config: " ++ error))))
      | .ok (), none => some (s.wrote C i cfg)
    | _ => none

def Done (request : Request) (cfg : Json) : Prop :=
  ∃ edit, prepare request = .ok edit ∧ edit.Effect cfg

/-- In the course of the run one of the requests has written before the other one reads. -/
def OneAfterTheOther (request : Party → Request) (file : Option Bytes) (as : List Action) : Prop :=
  ∃ xs ys u i cfg, as = xs ++ ys ∧ exec (step C request) { file } xs = some u ∧
    u.phase i = .written cfg ∧ u.phase i.other = .waiting

section Steps

variable {C} {request : Party → Request} {s t : State} {a : Action}

lemma step_cases (h : step C request s a = some t) : ∃ i,
    (s.phase i = .waiting ∧ t = s.goto i (afterRead C (request i) s.file)) ∨
    (∃ edit cfg, s.phase i = .holding edit cfg ∧ t = s.goto i (afterModify edit cfg)) ∨
    ∃ cfg, s.phase i = .edited cfg ∧
      ((checkWrite cfg = .ok () ∧ t = s.wrote C i cfg) ∨ ∃ failure, t = s.goto i (.failed failure)) := by
  cases a with
  | read i =>
    cases hp : s.phase i <;> simp only [step, hp, Option.some.injEq, reduceCtorEq] at h
    exact ⟨i, .inl ⟨hp, h.symm⟩⟩
  | modify i =>
    cases hp : s.phase i <;> simp only [step, hp, Option.some.injEq, reduceCtorEq] at h
    exact ⟨i, .inr (.inl ⟨_, _, hp, h.symm⟩)⟩
  | write i fault =>
    cases hp : s.phase i <;> simp only [step, hp, reduceCtorEq] at h
    refine ⟨i, .inr (.inr ⟨_, hp, ?_⟩)⟩
    split at h
    · exact .inr ⟨_, (Option.some.inj h).symm⟩
    · exact .inr ⟨_, (Option.some.inj h).symm⟩
    · next hc => exact .inl ⟨hc, (Option.some.inj h).symm⟩

@[simp] lemma goto_same (i : Party) (phase : Phase) : (s.goto i phase).phase i = phase := by
  simp [State.goto]

lemma goto_other {i j : Party} (h : j ≠ i) (phase : Phase) :
    (s.goto i phase).phase j = s.phase j := by
  simp [State.goto, h]

lemma afterRead_holding {r : Request} {file : Option Bytes} {edit : Edit} {cfg : Json}
    (h : afterRead C r file = .holding edit cfg) :
    prepare r = .ok edit ∧ ConfigStore.read C configPath file = .ok cfg := by
  rw [afterRead] at h
  cases hp : prepare r with
  | error failure => simp [hp] at h
  | ok e =>
    cases hr : refusing 500 "failed to read config: " (ConfigStore.read C configPath file) with
    | error failure => simp [hp, hr] at h
    | ok c =>
      simp only [hp, hr, Phase.holding.injEq] at h
      obtain ⟨rfl, rfl⟩ := h
      exact ⟨rfl, refusing_eq_ok.mp hr⟩

lemma afterRead_cases (r : Request) (file : Option Bytes) :
    (∃ edit cfg, afterRead C r file = .holding edit cfg) ∨ ∃ f, afterRead C r file = .failed f := by
  rw [afterRead]
  split
  · exact .inr ⟨_, rfl⟩
  · split
    · exact .inr ⟨_, rfl⟩
    · exact .inl ⟨_, _, rfl⟩

lemma afterModify_cases (edit : Edit) (cfg : Json) :
    (∃ cfg', afterModify edit cfg = .edited cfg' ∧ edit.apply cfg = .ok cfg') ∨
      ∃ f, afterModify edit cfg = .failed f := by
  rw [afterModify]
  split
  · exact .inr ⟨_, rfl⟩
  · next h => exact .inl ⟨_, rfl, h⟩

lemma read_written {cfg : Json} (hround : C.charReader (C.streamWriter cfg) = some cfg)
    (hv : ValidConfig cfg) : ConfigStore.read C configPath (some (C.streamWriter cfg)) = .ok cfg := by
  simp [ConfigStore.read, hround, hv.object]

end Steps

def Owns (request : Request) : Phase → Prop
  | .waiting | .failed _ => True
  | .holding edit _ => prepare request = .ok edit
  | .edited cfg => Done request cfg
  | .written cfg => Done request cfg ∧ ValidConfig cfg

structure Inv (C : Codec) (request : Party → Request) (s : State) : Prop where
  owns : ∀ i, Owns (request i) (s.phase i)
  writer : ∀ i, s.writer = some i → ∃ cfg, s.phase i = .written cfg ∧
    s.file = some (C.streamWriter cfg)
  writer_isSome : ∀ i cfg, s.phase i = .written cfg → s.writer.isSome

section Invariant

variable {C : Codec} {request : Party → Request} {s t : State} {a : Action}

lemma inv_start (file : Option Bytes) : Inv C request { file } := by
  constructor <;> simp [Owns]

lemma inv_goto (hi : Inv C request s) {i : Party} {phase : Phase} (ho : Owns (request i) phase)
    (hn : ∀ cfg, phase ≠ .written cfg) (hs : ∀ cfg, s.phase i ≠ .written cfg) :
    Inv C request (s.goto i phase) := by
  constructor
  · intro j
    by_cases hj : j = i
    · subst hj
      simpa using ho
    · rw [goto_other hj]
      exact hi.owns j
  · intro j hj
    obtain ⟨cfg, hp, hf⟩ := hi.writer j hj
    have hne : j ≠ i := by
      rintro rfl
      exact hs cfg hp
    exact ⟨cfg, (goto_other hne phase).trans hp, hf⟩
  · intro j cfg hj
    by_cases hji : j = i
    · subst hji
      exact absurd ((goto_same j phase).symm.trans hj) (hn cfg)
    · rw [goto_other hji] at hj
      exact hi.writer_isSome j cfg hj

lemma inv_wrote (hi : Inv C request s) {i : Party} {cfg : Json} (hd : Done (request i) cfg)
    (hv : ValidConfig cfg) : Inv C request (s.wrote C i cfg) := by
  constructor
  · intro j
    by_cases hj : j = i
    · subst hj
      simpa [State.wrote] using ⟨hd, hv⟩
    · simp only [State.wrote, goto_other hj]
      exact hi.owns j
  · intro j hj
    obtain rfl := Option.some.inj hj
    exact ⟨cfg, goto_same i _, rfl⟩
  · intro j cfg' _
    rfl

lemma inv_step (hi : Inv C request s) (h : step C request s a = some t) : Inv C request t := by
  obtain ⟨i, ⟨hp, rfl⟩ | ⟨edit, cfg, hp, rfl⟩ | ⟨cfg, hp, ⟨hc, rfl⟩ | ⟨f, rfl⟩⟩⟩ := step_cases h
  · obtain ⟨edit, cfg, ha⟩ | ⟨f, ha⟩ := afterRead_cases (C := C) (request i) s.file <;> rw [ha]
    · exact inv_goto hi (afterRead_holding ha).1 (by simp) (by simp [hp])
    · exact inv_goto hi trivial (by simp) (by simp [hp])
  · obtain ⟨cfg', ha, he⟩ | ⟨f, ha⟩ := afterModify_cases edit cfg <;> rw [ha]
    · have hown := hi.owns i
      rw [hp] at hown
      exact inv_goto hi ⟨edit, hown, apply_effect he⟩ (by simp) (by simp [hp])
    · exact inv_goto hi trivial (by simp) (by simp [hp])
  · have hown := hi.owns i
    rw [hp] at hown
    exact inv_wrote hi hown (validate_ok_iff.mp (refusing_eq_ok.mp hc))
  · exact inv_goto hi trivial (by simp) (by simp [hp])

end Invariant

def Follows (C : Codec) (request : Party → Request) (i : Party) (cfg : Json) (s : State) :
    Phase → Prop
  | .waiting => s.file = some (C.streamWriter cfg)
  | .holding _ base => base = cfg
  | .edited cfg' => Done (request i) cfg'
  | .written cfg' => Done (request i) cfg' ∧ s.writer = some i.other
  | .failed _ => True

structure After (C : Codec) (request : Party → Request) (i : Party) (cfg : Json) (s : State) :
    Prop where
  inv : Inv C request s
  first : s.phase i = .written cfg
  second : Follows C request i cfg s (s.phase i.other)

section Serial

variable {C : Codec} {request : Party → Request} {s t : State} {a : Action} {i : Party} {cfg : Json}

lemma Party.other_ne (i : Party) : i.other ≠ i := by cases i <;> decide

lemma Party.other_other (i : Party) : i.other.other = i := by cases i <;> rfl

lemma Party.eq_other {i j : Party} (h : j ≠ i) : j = i.other := by
  cases i <;> cases j <;> simp_all [Party.other]

def DifferentDevices (request : Party → Request) : Prop :=
  (request .first).deviceId ≠ (request .second).deviceId

instance : Decidable (DifferentDevices request) :=
  inferInstanceAs (Decidable ((request .first).deviceId ≠ (request .second).deviceId))

lemma DifferentDevices.ne (h : DifferentDevices request) (i : Party) :
    (request i).deviceId ≠ (request i.other).deviceId := by
  cases i with
  | first => exact h
  | second => exact h.symm

lemma done_frame (hd : DifferentDevices request) {edit : Edit} {cfg' : Json} (hdone : Done (request i) cfg)
    (hp : prepare (request i.other) = .ok edit) (ha : edit.apply cfg = .ok cfg') :
    Done (request i) cfg' := by
  obtain ⟨e, he, heff⟩ := hdone
  obtain ⟨id, hid⟩ := prepare_ok_deviceId he
  refine ⟨e, he, effect_frame hid ?_ ha heff⟩
  rw [prepare_deviceId hp, ← hid, prepare_deviceId he]
  exact (hd.ne i).symm

lemma step_cases_of_written (hw : s.phase i = .written cfg) (h : step C request s a = some t) :
    t.phase i = .written cfg ∧
    ((s.phase i.other = .waiting ∧ t = s.goto i.other (afterRead C (request i.other) s.file)) ∨
    (∃ edit base, s.phase i.other = .holding edit base ∧ t = s.goto i.other (afterModify edit base)) ∨
    ∃ cfg', s.phase i.other = .edited cfg' ∧ ((checkWrite cfg' = .ok () ∧ t = s.wrote C i.other cfg') ∨
      ∃ failure, t = s.goto i.other (.failed failure))) := by
  obtain ⟨j, hj⟩ := step_cases h
  have hji : j = i.other := by
    apply Party.eq_other
    rintro rfl
    obtain ⟨hp, -⟩ | ⟨_, _, hp, -⟩ | ⟨_, hp, -⟩ := hj <;> simp [hw] at hp
  subst hji
  refine ⟨?_, hj⟩
  obtain ⟨-, rfl⟩ | ⟨_, _, -, rfl⟩ | ⟨_, -, ⟨-, rfl⟩ | ⟨_, rfl⟩⟩ := hj <;>
    exact (goto_other i.other_ne.symm _).trans hw

lemma after_step (hd : DifferentDevices request) (hround : C.charReader (C.streamWriter cfg) = some cfg)
    (ha : After C request i cfg s) (h : step C request s a = some t) :
    After C request i cfg t := by
  obtain ⟨hdone, hvalid⟩ : Done (request i) cfg ∧ ValidConfig cfg := by
    have hown := ha.inv.owns i
    rwa [ha.first] at hown
  obtain ⟨hfirst, hj⟩ := step_cases_of_written ha.first h
  refine ⟨inv_step ha.inv h, hfirst, ?_⟩
  have hfollows := ha.second
  have howns := ha.inv.owns i.other
  obtain ⟨hp, rfl⟩ | ⟨edit, base, hp, rfl⟩ | ⟨cfg', hp, ⟨hc, rfl⟩ | ⟨f, rfl⟩⟩ := hj <;>
    rw [hp] at hfollows howns
  · rw [goto_same]
    obtain ⟨edit, base, hr⟩ | ⟨f, hr⟩ := afterRead_cases (C := C) (request i.other) s.file
    · have hread := (afterRead_holding hr).2
      rw [show s.file = some (C.streamWriter cfg) from hfollows, read_written hround hvalid] at hread
      rw [hr]
      exact (Except.ok.inj hread).symm
    · rw [hr]
      trivial
  · rw [goto_same]
    obtain ⟨cfg', hm, he⟩ | ⟨f, hm⟩ := afterModify_cases edit base
    · rw [hm]
      exact done_frame hd hdone howns (show edit.apply cfg = .ok cfg' from hfollows ▸ he)
    · rw [hm]
      trivial
  · have hs : (s.wrote C i.other cfg').phase i.other = .written cfg' := goto_same i.other _
    rw [hs]
    exact ⟨hfollows, rfl⟩
  · rw [goto_same]
    trivial

lemma after_start (hi : Inv C request s) (hw : s.phase i = .written cfg)
    (hn : s.phase i.other = .waiting) : After C request i cfg s := by
  refine ⟨hi, hw, ?_⟩
  obtain ⟨last, hl⟩ := Option.isSome_iff_exists.mp (hi.writer_isSome i cfg hw)
  obtain ⟨cfg', hp, hf⟩ := hi.writer last hl
  have hli : last = i := by
    by_contra hne
    rw [Party.eq_other hne, hn] at hp
    cases hp
  subst hli
  obtain rfl := Phase.written.inj (hw.symm.trans hp)
  rw [hn]
  exact hf

end Serial

section Main

variable (C : Codec) (request : Party → Request)

theorem last_edit_kept (hd : DifferentDevices request) (file : Option Bytes) (as : List Action) (t : State)
    (hrun : exec (step C request) { file } as = some t)
    (hok : ∀ i, ∃ cfg, t.phase i = .written cfg)
    (hround : ∀ i cfg, t.phase i = .written cfg → C.charReader (C.streamWriter cfg) = some cfg) :
    ∃ last cfg, t.writer = some last ∧ ConfigStore.read C configPath t.file = .ok cfg ∧
      Done (request last) cfg ∧
      (OneAfterTheOther C request file as → Done (request last.other) cfg) := by
  have hinv : Inv C request t := exec_invariant (fun _ _ _ => inv_step) (inv_start file) hrun
  obtain ⟨_, hfirst⟩ := hok .first
  obtain ⟨last, hl⟩ := Option.isSome_iff_exists.mp (hinv.writer_isSome .first _ hfirst)
  obtain ⟨cfg, hp, hf⟩ := hinv.writer last hl
  obtain ⟨hdone, hvalid⟩ : Done (request last) cfg ∧ ValidConfig cfg := by
    have hown := hinv.owns last
    rwa [hp] at hown
  refine ⟨last, cfg, hl, ?_, hdone, ?_⟩
  · rw [hf]
    exact read_written (hround last cfg hp) hvalid
  · rintro ⟨xs, ys, u, i, base, rfl, hxs, hwritten, hwaiting⟩
    obtain ⟨u', hu', hys⟩ := exec_append.mp hrun
    obtain rfl : u' = u := Option.some.inj (hu'.symm.trans hxs)
    have hkeep : ∀ (s : State) a v, s.phase i = .written base → step C request s a = some v →
        v.phase i = .written base := fun _ _ _ hw h => (step_cases_of_written hw h).1
    have hbase := exec_invariant hkeep hwritten hys
    have hiu : Inv C request u' := exec_invariant (fun _ _ _ => inv_step) (inv_start file) hxs
    have hafter : After C request i base t := exec_invariant
      (fun _ _ _ => after_step hd (hround i base hbase)) (after_start hiu hwritten hwaiting) hys
    obtain ⟨cfg', hsecond⟩ := hok i.other
    have hfollows := hafter.second
    rw [hsecond] at hfollows
    obtain rfl : last = i.other := Option.some.inj (hl.symm.trans hfollows.2)
    obtain rfl := Phase.written.inj (hp.symm.trans hsecond)
    rw [Party.other_other]
    exact hfollows.1

end Main

section Runs

def pad (id : String) : Json :=
  .object [("bindings", .object []), ("id", .string id), ("match", .object [])]

def pads (ids : List String) : Json := .object [("devices", .array (ids.map pad))]

def padText (id : String) : String :=
  "    \x7b\n      \"bindings\" : \x7b\x7d,\n      \"id\" : \"" ++ id ++
    "\",\n      \"match\" : \x7b\x7d\n    \x7d"

def padsText : List String → Bytes
  | [] => utf8 "\x7b\n  \"devices\" : []\n\x7d"
  | ids => utf8 ("\x7b\n  \"devices\" : \n  [\n" ++ ",\n".intercalate (ids.map padText) ++
      "\n  ]\n\x7d")

def padsCodec : Codec :=
  .ofTable ([[], ["left"], ["right"], ["left", "right"]].map fun ids => (padsText ids, pads ids))

def twoPosts : Party → Request
  | .first => .post (some (.object [("id", .string "left")]))
  | .second => .post (some (.object [("id", .string "right")]))

theorem serial_posts_kept : ∃ t last cfg,
    exec (step padsCodec twoPosts) { file := some (padsText []) }
      [.read .first, .modify .first, .write .first none,
        .read .second, .modify .second, .write .second none] = some t ∧
    ConfigStore.read padsCodec configPath t.file = .ok cfg ∧
    Done (twoPosts last) cfg ∧ Done (twoPosts last.other) cfg := by
  obtain ⟨last, cfg, -, hr, hd, ho⟩ := last_edit_kept padsCodec twoPosts (by decide)
    (some (padsText []))
    [.read .first, .modify .first, .write .first none,
      .read .second, .modify .second, .write .second none] _ rfl
    (by intro i; cases i <;> exact ⟨_, rfl⟩)
    (by intro i cfg h; cases i <;> · obtain rfl := Phase.written.inj h; rfl)
  exact ⟨_, last, cfg, rfl, hr, hd, ho
    ⟨[.read .first, .modify .first, .write .first none], _, _, .first, _, rfl, rfl, rfl, rfl⟩⟩

theorem first_post_lost : DifferentDevices twoPosts ∧ ∃ t cfg,
    exec (step padsCodec twoPosts) { file := some (padsText []) }
      [.read .first, .read .second, .modify .first, .modify .second,
        .write .first none, .write .second none] = some t ∧
    (∀ i, ∃ cfg, t.phase i = .written cfg) ∧
    ConfigStore.read padsCodec configPath t.file = .ok cfg ∧ ¬ Done (twoPosts .first) cfg := by
  refine ⟨by decide, _, pads ["right"], rfl, ?_, rfl, ?_⟩
  · intro i
    cases i <;> exact ⟨_, rfl⟩
  · rintro ⟨edit, he, heff⟩
    obtain rfl : Edit.append (pad "left") = edit := Except.ok.inj he
    have hp : pad "left" = pad "right" := List.mem_singleton.mp heff
    simp [pad] at hp

end Runs

end PointerForce.Bridge.ConcurrentEdits
