import Mathlib.Data.List.Forall2
import MeasuredJob.Error

/-!
# What a success tells

Every stage of a composition is a chain of steps that may fail.  The lemmas here take a successful
chain apart: each step of it succeeded, a traversal succeeded at every element, and what every step
of a fold preserves holds of the result.
-/

namespace MeasuredJob
namespace Success

variable {α β : Type}

@[simp] theorem pure_eq_ok_iff {a b : α} : (pure a : Except Error α) = .ok b ↔ a = b := by
  simp [pure, Except.pure]

@[simp] theorem throw_ne_ok {e : Error} {a : α} : (throw e : Except Error α) ≠ .ok a := by
  simp [throw, throwThe, MonadExceptOf.throw]

theorem bind_eq_ok_iff {x : Except Error α} {f : α → Except Error β} {b : β} :
    (x >>= f) = .ok b ↔ ∃ a, x = .ok a ∧ f a = .ok b := by
  cases x <;> simp [bind, Except.bind]

/-- A check in front of a chain succeeds when it finds no fault. -/
theorem check_bind_eq_ok_iff {fault : Option Error} {f : Unit → Except Error β} {b : β} :
    (Error.check fault >>= f) = .ok b ↔ fault = none ∧ f () = .ok b := by
  rw [bind_eq_ok_iff]
  constructor
  · rintro ⟨⟨⟩, hcheck, hf⟩
    exact ⟨Error.check_eq_ok_iff.mp hcheck, hf⟩
  · rintro ⟨hfault, hf⟩
    exact ⟨(), Error.check_eq_ok_iff.mpr hfault, hf⟩

/-- A guard in front of a chain succeeds when its condition does not hold. -/
theorem guard_eq_ok_iff {p : Prop} [Decidable p] {e : Error} {f : α → Except Error β}
    {x : Except Error β} {b : β} :
    (if p then (throw e : Except Error α) >>= f else x) = .ok b ↔ ¬p ∧ x = .ok b := by
  by_cases hp : p
  · rw [if_pos hp]
    constructor
    · intro h
      obtain ⟨a, ha, -⟩ := bind_eq_ok_iff.mp h
      exact absurd ha throw_ne_ok
    · intro h
      exact absurd hp h.1
  · rw [if_neg hp]
    exact (and_iff_right hp).symm

/-- A traversal succeeds when it succeeds at every element. -/
theorem mapM_eq_ok_iff {f : α → Except Error β} {as : List α} {bs : List β} :
    as.mapM f = .ok bs ↔ List.Forall₂ (fun a b => f a = .ok b) as bs := by
  induction as generalizing bs with
  | nil =>
    rw [List.mapM_nil, pure_eq_ok_iff]
    constructor
    · rintro rfl
      exact .nil
    · rintro ⟨⟩
      rfl
  | cons a as ih =>
    simp only [List.mapM_cons, bind_eq_ok_iff, pure_eq_ok_iff]
    constructor
    · rintro ⟨b, hb, bs, hbs, rfl⟩
      exact .cons hb (ih.mp hbs)
    · intro h
      cases h with
      | cons hb hbs => exact ⟨_, hb, _, ih.mpr hbs, rfl⟩

/-- Every result of a traversal comes from an element. -/
theorem exists_of_mem_right {R : α → β → Prop} {as : List α} {bs : List β}
    (h : List.Forall₂ R as bs) {b : β} (hb : b ∈ bs) : ∃ a ∈ as, R a b := by
  induction h with
  | nil => exact absurd hb List.not_mem_nil
  | cons hfirst _ ih =>
    rcases List.mem_cons.mp hb with rfl | hb
    · exact ⟨_, List.mem_cons_self, hfirst⟩
    · obtain ⟨a, ha, hR⟩ := ih hb
      exact ⟨a, List.mem_cons_of_mem _ ha, hR⟩

/-- Every element of a traversal has a result. -/
theorem exists_of_mem_left {R : α → β → Prop} {as : List α} {bs : List β}
    (h : List.Forall₂ R as bs) {a : α} (ha : a ∈ as) : ∃ b ∈ bs, R a b :=
  exists_of_mem_right h.flip ha

theorem exists_getElem?_of_forall₂ {R : α → β → Prop} {as : List α} {bs : List β}
    (h : List.Forall₂ R as bs) {i : ℕ} {a : α} (ha : as[i]? = some a) :
    ∃ b, bs[i]? = some b ∧ R a b := by
  induction h generalizing i with
  | nil => cases ha
  | cons hfirst _ ih =>
    cases i with
    | zero =>
      cases ha
      exact ⟨_, rfl, hfirst⟩
    | succ i => exact ih ha

/-- Where every element has a result, the whole traversal has. -/
theorem exists_forall₂_of_forall {R : α → β → Prop} {as : List α} (h : ∀ a ∈ as, ∃ b, R a b) :
    ∃ bs, List.Forall₂ R as bs := by
  induction as with
  | nil => exact ⟨[], .nil⟩
  | cons a as ih =>
    obtain ⟨b, hb⟩ := h a List.mem_cons_self
    obtain ⟨bs, hbs⟩ := ih fun a ha => h a (List.mem_cons_of_mem _ ha)
    exact ⟨b :: bs, .cons hb hbs⟩

/-- What elements and their results have in common is the same list of both. -/
theorem map_eq_map_of_forall₂ {γ : Type} {R : α → β → Prop} {as : List α} {bs : List β}
    (h : List.Forall₂ R as bs) {f : α → γ} {g : β → γ} (hfg : ∀ a b, R a b → f a = g b) :
    as.map f = bs.map g := by
  rw [← List.forall₂_eq_eq_eq, List.forall₂_map_left_iff, List.forall₂_map_right_iff]
  exact h.imp hfg

/-- Each result of a traversal is that of the element at its place. -/
theorem getElem?_of_forall₂ {f : α → Except Error β} {as : List α} {bs : List β}
    (h : List.Forall₂ (fun a b => f a = .ok b) as bs) (i : ℕ) :
    bs[i]? = as[i]?.bind fun a => (f a).toOption := by
  induction h generalizing i with
  | nil => rfl
  | cons hfirst _ ih =>
    cases i with
    | zero => simp [hfirst, Except.toOption]
    | succ i => exact ih i

/-- One more element has one more result, at the same place. -/
theorem forall₂_insertIdx_left_iff {R : α → β → Prop} {as : List α} {bs : List β} {a : α} {n : ℕ}
    (hn : n ≤ as.length) :
    List.Forall₂ R (as.insertIdx n a) bs ↔
      ∃ b bs', R a b ∧ List.Forall₂ R as bs' ∧ bs = bs'.insertIdx n b := by
  induction n generalizing as bs with
  | zero => simp only [List.insertIdx_zero, List.forall₂_cons_left_iff]
  | succ n ih =>
    cases as with
    | nil => exact absurd hn (Nat.not_succ_le_zero n)
    | cons first as =>
      simp only [List.insertIdx_succ_cons, List.forall₂_cons_left_iff,
        ih (Nat.le_of_succ_le_succ hn)]
      constructor
      · rintro ⟨c, _, hfirst, ⟨b, bs', hR, hrest, rfl⟩, rfl⟩
        exact ⟨b, c :: bs', hR, ⟨c, bs', hfirst, hrest, rfl⟩, rfl⟩
      · rintro ⟨b, _, hR, ⟨c, bs', hfirst, hrest, rfl⟩, rfl⟩
        exact ⟨c, _, hfirst, ⟨b, bs', hR, hrest, rfl⟩, rfl⟩

/-- The results of two lists stand one after another. -/
theorem exists_of_forall₂_append {R : α → β → Prop} {as as' : List α} {bs : List β}
    (h : List.Forall₂ R (as ++ as') bs) :
    ∃ first rest, bs = first ++ rest ∧ List.Forall₂ R as first ∧ List.Forall₂ R as' rest :=
  ⟨bs.take as.length, bs.drop as.length, (List.take_append_drop _ bs).symm,
    (List.forall₂_take_append bs as as' h.flip).flip,
    (List.forall₂_drop_append bs as as' h.flip).flip⟩

/-- Results that are made from others are the image of those others. -/
theorem forall₂_exists_eq_iff {γ : Type} {R : α → β → Prop} {g : β → γ} {as : List α}
    {cs : List γ} :
    List.Forall₂ (fun a c => ∃ b, R a b ∧ c = g b) as cs ↔
      ∃ bs, List.Forall₂ R as bs ∧ cs = bs.map g := by
  induction as generalizing cs with
  | nil =>
    simp only [List.forall₂_nil_left_iff, exists_eq_left, List.map_nil]
  | cons a as ih =>
    simp only [List.forall₂_cons_left_iff, ih]
    constructor
    · rintro ⟨_, _, ⟨b, hb, rfl⟩, ⟨bs, hbs, rfl⟩, rfl⟩
      exact ⟨b :: bs, ⟨b, bs, hb, hbs, rfl⟩, rfl⟩
    · rintro ⟨_, ⟨b, bs, hb, hbs, rfl⟩, rfl⟩
      exact ⟨_, _, ⟨b, hb, rfl⟩, ⟨bs, hbs, rfl⟩, rfl⟩

/-- Results of the same elements belong together. -/
theorem forall₂_of_common {γ : Type} {R : α → β → Prop} {S : α → γ → Prop} {T : β → γ → Prop}
    {as : List α} {bs : List β} {cs : List γ} (hbs : List.Forall₂ R as bs)
    (hcs : List.Forall₂ S as cs) (h : ∀ a b c, R a b → S a c → T b c) : List.Forall₂ T bs cs := by
  induction hbs generalizing cs with
  | nil =>
    cases hcs
    exact .nil
  | cons hfirst _ ih =>
    cases hcs with
    | cons hfirst' hrest' => exact .cons (h _ _ _ hfirst hfirst') (ih hrest')

/-- Where related elements pass a test together, and are the same when they do, the same elements
pass it. -/
theorem filter_eq_filter_of_forall₂ {R : α → α → Prop} {p : α → Bool} {as bs : List α}
    (h : List.Forall₂ R as bs) (htest : ∀ a b, R a b → p b = p a)
    (hsame : ∀ a b, R a b → p a = true → b = a) : bs.filter p = as.filter p := by
  induction h with
  | nil => rfl
  | @cons a b as bs hfirst _ ih =>
    rw [List.filter_cons, List.filter_cons, htest a b hfirst, ih]
    by_cases hp : p a = true
    · rw [if_pos hp, if_pos hp, hsame a b hfirst hp]
    · rw [if_neg hp, if_neg hp]

/-- What holds at the start of a successful fold and is preserved by every step holds of its
result. -/
theorem foldlM_induct {motive : β → Prop} {f : β → α → Except Error β} {as : List α} {b b' : β}
    (h : as.foldlM f b = .ok b') (start : motive b)
    (step : ∀ a ∈ as, ∀ c c', motive c → f c a = .ok c' → motive c') : motive b' := by
  induction as generalizing b with
  | nil =>
    rw [List.foldlM_nil, pure_eq_ok_iff] at h
    exact h ▸ start
  | cons a as ih =>
    rw [List.foldlM_cons, bind_eq_ok_iff] at h
    obtain ⟨c, hc, h⟩ := h
    have hmotive : motive c := step a List.mem_cons_self b c start hc
    exact ih h hmotive fun a ha => step a (List.mem_cons_of_mem _ ha)

theorem foldlM_append_eq_ok_iff {f : β → α → Except Error β} {as as' : List α} {b b' : β} :
    (as ++ as').foldlM f b = .ok b' ↔ ∃ c, as.foldlM f b = .ok c ∧ as'.foldlM f c = .ok b' := by
  rw [List.foldlM_append, bind_eq_ok_iff]

theorem foldlM_singleton_eq_ok_iff {f : β → α → Except Error β} {a : α} {b b' : β} :
    [a].foldlM f b = .ok b' ↔ f b a = .ok b' := by
  rw [List.foldlM_cons, bind_eq_ok_iff]
  simp only [List.foldlM_nil, pure_eq_ok_iff, exists_eq_right]

/-- What the step of one element establishes and every step preserves holds of the result. -/
theorem foldlM_induct_of_mem {motive : β → Prop} {f : β → α → Except Error β} {as : List α}
    {b b' : β} (h : as.foldlM f b = .ok b') {a : α} (ha : a ∈ as)
    (start : ∀ c c', f c a = .ok c' → motive c')
    (step : ∀ a ∈ as, ∀ c c', motive c → f c a = .ok c' → motive c') : motive b' := by
  obtain ⟨before, after, rfl⟩ := List.append_of_mem ha
  obtain ⟨c, -, hrest⟩ := foldlM_append_eq_ok_iff.mp h
  rw [List.foldlM_cons, bind_eq_ok_iff] at hrest
  obtain ⟨c', hstep, hafter⟩ := hrest
  refine foldlM_induct hafter (start c c' hstep) fun a' ha' => step a' ?_
  exact List.mem_append_right before (List.mem_cons_of_mem a ha')

/-- In a successful fold every step succeeded. -/
theorem exists_step_of_foldlM {f : β → α → Except Error β} {as : List α} {b b' : β}
    (h : as.foldlM f b = .ok b') {a : α} (ha : a ∈ as) : ∃ c c', f c a = .ok c' := by
  obtain ⟨before, after, rfl⟩ := List.append_of_mem ha
  obtain ⟨c, -, hrest⟩ := foldlM_append_eq_ok_iff.mp h
  rw [List.foldlM_cons, bind_eq_ok_iff] at hrest
  obtain ⟨c', hstep, -⟩ := hrest
  exact ⟨c, c', hstep⟩

/-- A computation that is seen to succeed has a result. -/
theorem exists_of_isOk {ε : Type} {x : Except ε α} (h : x.isOk = true) : ∃ a, x = .ok a := by
  cases x with
  | ok a => exact ⟨a, rfl⟩
  | error e => exact absurd h Bool.false_ne_true

end Success
end MeasuredJob
