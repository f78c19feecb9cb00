import Mathlib.Tactic

/-! Handles of a kind of resource, such as descriptors. The system gives out numbers that are free
and takes them back; a number that is given out again stands for another acquisition. -/

namespace PointerForce.Foundations.Handles

/-- `live` has the acquisition that each number in use stands for. -/
structure Pool where
  live : ℕ → Option ℕ := fun _ => none
  acquired : ℕ := 0
  released : List ℕ := []
  -- numbers given back while they were free
  stray : List ℕ := []

namespace Pool

def acquire (p : Pool) (h : ℕ) : Pool :=
  { p with live := Function.update p.live h (some p.acquired), acquired := p.acquired + 1 }

def release (p : Pool) (h : ℕ) : Pool :=
  match p.live h with
  | some n => { p with live := Function.update p.live h none, released := p.released ++ [n] }
  | none => { p with stray := p.stray ++ [h] }

end Pool

variable {Owner : Type} {p : Pool} {held : Owner → Option ℕ} {o d s : Owner} {h n : ℕ}

def Holds (p : Pool) (held : Owner → Option ℕ) (o : Owner) (n : ℕ) : Prop :=
  ∃ h, held o = some h ∧ p.live h = some n

structure Owned (p : Pool) (held : Owner → Option ℕ) : Prop where
  single : ∀ o o' h, held o = some h → held o' = some h → o = o'
  held_live : ∀ o h, held o = some h → ∃ n, p.live h = some n
  live_held : ∀ h n, p.live h = some n → ∃ o, held o = some h
  serial : ∀ h h' n, p.live h = some n → p.live h' = some n → h = h'
  live_lt : ∀ h n, p.live h = some n → n < p.acquired ∧ n ∉ p.released
  released_lt : ∀ n ∈ p.released, n < p.acquired
  accounted : ∀ n < p.acquired, n ∈ p.released ∨ ∃ h, p.live h = some n
  nodup : p.released.Nodup
  no_stray : p.stray = []

def HeldOrReleased (p : Pool) (held : Owner → Option ℕ) (n : ℕ) : Prop :=
  (∃! o, Holds p held o n) ∧ n ∉ p.released ∨
    (∀ o, ¬ Holds p held o n) ∧ p.released.count n = 1

lemma Owned.heldOrReleased (ho : Owned p held) (hn : n < p.acquired) : HeldOrReleased p held n := by
  rcases ho.accounted n hn with hr | ⟨h, hl⟩
  · refine .inr ⟨?_, List.count_eq_one_of_mem ho.nodup hr⟩
    rintro o ⟨h, -, hl⟩
    exact (ho.live_lt h n hl).2 hr
  · obtain ⟨o, hh⟩ := ho.live_held h n hl
    refine .inl ⟨⟨o, ⟨h, hh, hl⟩, ?_⟩, (ho.live_lt h n hl).2⟩
    rintro o' ⟨h', hh', hl'⟩
    obtain rfl := ho.serial h h' n hl hl'
    exact ho.single o' o h hh' hh

lemma Owned.unique (ho : Owned p held) (h₁ : Holds p held o n) (h₂ : Holds p held d n) : o = d := by
  obtain ⟨h, hh, hl⟩ := h₁
  obtain ⟨h', hh', hl'⟩ := h₂
  obtain rfl := ho.serial h h' n hl hl'
  exact ho.single o d h hh hh'

lemma Owned.holds (ho : Owned p held) (hh : held o = some h) : ∃ n, Holds p held o n := by
  obtain ⟨n, hn⟩ := ho.held_live o h hh
  exact ⟨n, h, hh, hn⟩

lemma Owned.exists_free (ho : Owned p held) : ∃ h, p.live h = none := by
  by_contra hno
  have hall : ∀ h, ∃ n, p.live h = some n := fun h =>
    Option.ne_none_iff_exists'.mp fun hn => hno ⟨h, hn⟩
  choose f hf using hall
  have hinj : Function.Injective fun h => (⟨f h, (ho.live_lt h (f h) (hf h)).1⟩ : Fin p.acquired) := by
    intro h h' he
    have hsame : f h = f h' := congrArg Fin.val he
    exact ho.serial h h' (f h) (hf h) (hsame ▸ hf h')
  exact not_injective_infinite_finite _ hinj

lemma owned_start : Owned {} fun _ : Owner => none where
  single _ _ _ h := nomatch h
  held_live _ _ h := nomatch h
  live_held _ _ h := nomatch h
  serial _ _ _ h := nomatch h
  live_lt _ _ h := nomatch h
  released_lt _ h := nomatch h
  accounted _ h := absurd h (Nat.not_lt_zero _)
  nodup := List.nodup_nil
  no_stray := rfl

lemma ne_of_none {α β : Type} {f : α → Option β} {a b : α} {y : β} (ha : f a = none)
    (hb : f b = some y) : b ≠ a := by
  rintro rfl
  rw [ha] at hb
  cases hb

lemma Holds.ne (ho : Holds p held o n) (hd : held d = none) : o ≠ d := by
  obtain ⟨h, hh, -⟩ := ho
  exact ne_of_none hd hh

lemma update_cases {α β : Type} [DecidableEq α] {f : α → Option β} {a b : α} {x : Option β} {y : β}
    (h : Function.update f a x b = some y) : (b = a ∧ x = some y) ∨ (b ≠ a ∧ f b = some y) := by
  by_cases hb : b = a
  · subst hb
    exact .inl ⟨rfl, by rwa [Function.update_self] at h⟩
  · exact .inr ⟨hb, by rwa [Function.update_of_ne hb] at h⟩

variable [DecidableEq Owner]

lemma Owned.acquire (ho : Owned p held) (hfree : p.live h = none) (hnone : held o = none) :
    Owned (p.acquire h) (Function.update held o (some h)) := by
  have hheld : ∀ o', held o' ≠ some h := by
    intro o' hh
    obtain ⟨n, hn⟩ := ho.held_live o' h hh
    rw [hfree] at hn
    cases hn
  have hlive : ∀ k, p.live k ≠ some p.acquired :=
    fun k hk => absurd (ho.live_lt k _ hk).1 (lt_irrefl _)
  have hkeep : ∀ k n, p.live k = some n → (p.acquire h).live k = some n := by
    intro k n hk
    exact (Function.update_of_ne (ne_of_none hfree hk) _ _).trans hk
  constructor
  case single =>
    intro a b k ha hb
    rcases update_cases ha with ⟨ea, xa⟩ | ⟨-, xa⟩ <;> rcases update_cases hb with ⟨eb, xb⟩ | ⟨-, xb⟩
    · rw [ea, eb]
    · exact absurd (xb.trans xa.symm) (hheld b)
    · exact absurd (xa.trans xb.symm) (hheld a)
    · exact ho.single a b k xa xb
  case held_live =>
    intro a k ha
    rcases update_cases ha with ⟨-, xa⟩ | ⟨-, xa⟩
    · obtain rfl := Option.some.inj xa
      exact ⟨p.acquired, Function.update_self ..⟩
    · obtain ⟨n, hn⟩ := ho.held_live a k xa
      exact ⟨n, hkeep k n hn⟩
  case live_held =>
    intro k n hk
    rcases update_cases hk with ⟨rfl, -⟩ | ⟨-, xk⟩
    · exact ⟨o, Function.update_self ..⟩
    · obtain ⟨a, ha⟩ := ho.live_held k n xk
      exact ⟨a, by rwa [Function.update_of_ne (ne_of_none hnone ha)]⟩
  case serial =>
    intro k k' n hk hk'
    rcases update_cases hk with ⟨ek, xk⟩ | ⟨-, xk⟩ <;>
      rcases update_cases hk' with ⟨ek', xk'⟩ | ⟨-, xk'⟩
    · rw [ek, ek']
    · exact absurd (xk'.trans xk.symm) (hlive k')
    · exact absurd (xk.trans xk'.symm) (hlive k)
    · exact ho.serial k k' n xk xk'
  case live_lt =>
    intro k n hk
    rcases update_cases hk with ⟨-, xk⟩ | ⟨-, xk⟩
    · obtain rfl := Option.some.inj xk
      exact ⟨Nat.lt_succ_self _, fun hr => absurd (ho.released_lt _ hr) (lt_irrefl _)⟩
    · exact ⟨Nat.lt_succ_of_lt (ho.live_lt k n xk).1, (ho.live_lt k n xk).2⟩
  case released_lt =>
    exact fun n hn => Nat.lt_succ_of_lt (ho.released_lt n hn)
  case accounted =>
    intro n hn
    rcases Nat.lt_succ_iff_lt_or_eq.mp hn with hlt | rfl
    · exact (ho.accounted n hlt).imp_right fun ⟨k, hk⟩ => ⟨k, hkeep k n hk⟩
    · exact .inr ⟨h, Function.update_self ..⟩
  case nodup =>
    exact ho.nodup
  case no_stray =>
    exact ho.no_stray

lemma Owned.release (ho : Owned p held) (hh : held o = some h) :
    Owned (p.release h) (Function.update held o none) := by
  obtain ⟨m, hm⟩ := ho.held_live o h hh
  have hp : p.release h = { p with
      live := Function.update p.live h none, released := p.released ++ [m] } := by
    rw [Pool.release, hm]
  rw [hp]
  constructor
  case single =>
    intro a b k ha hb
    rcases update_cases ha with ⟨-, xa⟩ | ⟨-, xa⟩ <;> rcases update_cases hb with ⟨-, xb⟩ | ⟨-, xb⟩
    · cases xa
    · cases xa
    · cases xb
    · exact ho.single a b k xa xb
  case held_live =>
    intro a k ha
    rcases update_cases ha with ⟨-, xa⟩ | ⟨hne, xa⟩
    · cases xa
    · obtain ⟨n, hn⟩ := ho.held_live a k xa
      refine ⟨n, ?_⟩
      have hk : k ≠ h := by
        rintro rfl
        exact hne (ho.single a o k xa hh)
      exact (Function.update_of_ne hk _ _).trans hn
  case live_held =>
    intro k n hk
    rcases update_cases hk with ⟨-, xk⟩ | ⟨hne, xk⟩
    · cases xk
    · obtain ⟨a, ha⟩ := ho.live_held k n xk
      refine ⟨a, ?_⟩
      have hao : a ≠ o := by
        rintro rfl
        exact hne (Option.some.inj (ha.symm.trans hh))
      rwa [Function.update_of_ne hao]
  case serial =>
    intro k k' n hk hk'
    rcases update_cases hk with ⟨-, xk⟩ | ⟨-, xk⟩ <;> rcases update_cases hk' with ⟨-, xk'⟩ | ⟨-, xk'⟩
    · cases xk
    · cases xk
    · cases xk'
    · exact ho.serial k k' n xk xk'
  case live_lt =>
    intro k n hk
    rcases update_cases hk with ⟨-, xk⟩ | ⟨hne, xk⟩
    · cases xk
    · refine ⟨(ho.live_lt k n xk).1, ?_⟩
      rw [List.mem_append, List.mem_singleton]
      rintro (hr | rfl)
      · exact (ho.live_lt k n xk).2 hr
      · exact hne (ho.serial k h n xk hm)
  case released_lt =>
    intro n hn
    rcases List.mem_append.mp hn with hr | hs
    · exact ho.released_lt n hr
    · obtain rfl := List.mem_singleton.mp hs
      exact (ho.live_lt h n hm).1
  case accounted =>
    intro n hn
    rcases ho.accounted n hn with hr | ⟨k, hk⟩
    · exact .inl (List.mem_append_left _ hr)
    · by_cases hkh : k = h
      · subst hkh
        obtain rfl := Option.some.inj (hk.symm.trans hm)
        exact .inl (List.mem_append_right _ List.mem_cons_self)
      · exact .inr ⟨k, (Function.update_of_ne hkh _ _).trans hk⟩
  case nodup =>
    rw [List.nodup_append]
    refine ⟨ho.nodup, List.nodup_singleton m, ?_⟩
    rintro a ha b hb rfl
    obtain rfl := List.mem_singleton.mp hb
    exact (ho.live_lt h a hm).2 ha
  case no_stray =>
    exact ho.no_stray

lemma Owned.handOver (ho : Owned p held) (hd : held d = none) (hne : d ≠ s) :
    Owned p (Function.update (Function.update held s none) d (held s)) := by
  have hcases : ∀ a k, Function.update (Function.update held s none) d (held s) a = some k →
      (a = d ∧ held s = some k) ∨ (a ≠ d ∧ a ≠ s ∧ held a = some k) := by
    intro a k ha
    rcases update_cases ha with h | ⟨had, xa⟩
    · exact .inl h
    · rcases update_cases xa with ⟨-, xa⟩ | ⟨has, xa⟩
      · cases xa
      · exact .inr ⟨had, has, xa⟩
  constructor
  case single =>
    intro a b k ha hb
    rcases hcases a k ha with ⟨ea, xa⟩ | ⟨-, has, xa⟩ <;>
      rcases hcases b k hb with ⟨eb, xb⟩ | ⟨-, hbs, xb⟩
    · rw [ea, eb]
    · exact absurd (ho.single b s k xb xa) hbs
    · exact absurd (ho.single a s k xa xb) has
    · exact ho.single a b k xa xb
  case held_live =>
    intro a k ha
    rcases hcases a k ha with ⟨-, xa⟩ | ⟨-, -, xa⟩
    · exact ho.held_live s k xa
    · exact ho.held_live a k xa
  case live_held =>
    intro k n hk
    obtain ⟨a, ha⟩ := ho.live_held k n hk
    by_cases has : a = s
    · subst has
      exact ⟨d, by rw [Function.update_self, ha]⟩
    · have had : a ≠ d := ne_of_none hd ha
      exact ⟨a, by rwa [Function.update_of_ne had, Function.update_of_ne has]⟩
  case serial =>
    exact ho.serial
  case live_lt =>
    exact ho.live_lt
  case released_lt =>
    exact ho.released_lt
  case accounted =>
    exact ho.accounted
  case nodup =>
    exact ho.nodup
  case no_stray =>
    exact ho.no_stray

section Frame

variable {q : Owner}

lemma holds_acquired : Holds (p.acquire h) (Function.update held o (some h)) o p.acquired :=
  ⟨h, Function.update_self .., Function.update_self ..⟩

lemma Holds.acquire (hq : Holds p held q n) (hfree : p.live h = none) (hnone : held o = none) :
    Holds (p.acquire h) (Function.update held o (some h)) q n := by
  have hqo : q ≠ o := hq.ne hnone
  obtain ⟨k, hk, hn⟩ := hq
  have hkh : k ≠ h := ne_of_none hfree hn
  exact ⟨k, (Function.update_of_ne hqo _ _).trans hk, (Function.update_of_ne hkh _ _).trans hn⟩

lemma Holds.release (hq : Holds p held q n) (ho : Owned p held) (hh : held o = some h)
    (hqo : q ≠ o) : Holds (p.release h) (Function.update held o none) q n := by
  obtain ⟨k, hk, hn⟩ := hq
  have hkh : k ≠ h := by
    rintro rfl
    exact hqo (ho.single q o k hk hh)
  obtain ⟨m, hm⟩ := ho.held_live o h hh
  refine ⟨k, (Function.update_of_ne hqo _ _).trans hk, ?_⟩
  rw [Pool.release, hm]
  exact (Function.update_of_ne hkh _ _).trans hn

lemma Holds.handOver (hq : Holds p held q n) (hd : held d = none) :
    Holds p (Function.update (Function.update held s none) d (held s)) (if q = s then d else q) n := by
  have hqd : q ≠ d := hq.ne hd
  obtain ⟨k, hk, hn⟩ := hq
  refine ⟨k, ?_, hn⟩
  split
  case isTrue hqs =>
    rw [Function.update_self, ← hqs, hk]
  case isFalse hqs =>
    rwa [Function.update_of_ne hqd, Function.update_of_ne hqs]

end Frame

end PointerForce.Foundations.Handles
