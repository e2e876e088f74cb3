import MeasuredJob.Proofs.Success

/-!
# What a failure tells

The first step of a chain that fails decides the error of the whole chain.  The lemmas here find
that step: everything before it succeeded, and the error is its own.
-/

namespace MeasuredJob
namespace Failure

open Success

variable {α β : Type} {e : Error}

@[simp] theorem pure_ne_error {a : α} : (pure a : Except Error α) ≠ .error e := by
  simp [pure, Except.pure]

theorem bind_eq_error_iff {ε : Type} {x : Except ε α} {f : α → Except ε β} {e : ε} :
    (x >>= f) = .error e ↔ x = .error e ∨ ∃ a, x = .ok a ∧ f a = .error e := by
  cases x <;> simp [bind, Except.bind]

theorem mapError_bind {ε ε' α β : Type} {g : ε → ε'} {x : Except ε α} {f : α → Except ε β} :
    (x >>= f).mapError g = x.mapError g >>= fun a => (f a).mapError g := by
  cases x <;> rfl

theorem check_bind_eq_error_iff {fault : Option Error} {f : Unit → Except Error β} :
    (Error.check fault >>= f) = .error e ↔ fault = some e ∨ fault = none ∧ f () = .error e := by
  rw [bind_eq_error_iff, Error.check_eq_error_iff]
  refine or_congr_right ⟨?_, ?_⟩
  · rintro ⟨⟨⟩, hcheck, hf⟩
    exact ⟨Error.check_eq_ok_iff.mp hcheck, hf⟩
  · rintro ⟨hfault, hf⟩
    exact ⟨(), Error.check_eq_ok_iff.mpr hfault, hf⟩

theorem guard_eq_error_iff {p : Prop} [Decidable p] {e' : Error} {f : α → Except Error β}
    {x : Except Error β} :
    (if p then (throw e' : Except Error α) >>= f else x) = .error e ↔
      p ∧ e' = e ∨ ¬p ∧ x = .error e := by
  by_cases hp : p
  · rw [if_pos hp, bind_eq_error_iff]
    simp [hp, throw, throwThe, MonadExceptOf.throw]
  · rw [if_neg hp]
    simp [hp]

/-- A traversal fails at an element. -/
theorem exists_of_mapM_eq_error {f : α → Except Error β} {as : List α}
    (h : as.mapM f = .error e) : ∃ a ∈ as, f a = .error e := by
  induction as with
  | nil => exact absurd h pure_ne_error
  | cons a as ih =>
    rw [List.mapM_cons, bind_eq_error_iff] at h
    rcases h with hfirst | ⟨b, -, hrest⟩
    · exact ⟨a, List.mem_cons_self, hfirst⟩
    · rw [bind_eq_error_iff] at hrest
      rcases hrest with hrest | ⟨bs, -, hpure⟩
      · obtain ⟨a', ha', hf⟩ := ih hrest
        exact ⟨a', List.mem_cons_of_mem a ha', hf⟩
      · exact absurd hpure pure_ne_error

/-- The first fault of an element decides how a traversal fails. -/
theorem mapM_eq_error_iff {f : α → Except Error β} {fault? : α → Option Error}
    (h : ∀ a e, fault? a = some e ↔ f a = .error e) {as : List α} :
    as.mapM f = .error e ↔ as.findSome? fault? = some e := by
  induction as with
  | nil => simp
  | cons a as ih =>
    rw [List.mapM_cons, List.findSome?_cons, bind_eq_error_iff]
    cases hfault : fault? a with
    | some e' =>
      have hfirst := (h a e').mp hfault
      simp [hfirst]
    | none =>
      have hfirst : ∀ e', f a ≠ .error e' := fun e' he' => by
        rw [(h a e').mpr he'] at hfault
        cases hfault
      cases hresult : f a with
      | error e' => exact absurd hresult (hfirst e')
      | ok b =>
        simp only [reduceCtorEq, Except.ok.injEq, exists_eq_left', false_or, bind_eq_error_iff,
          pure_ne_error, and_false, exists_false, or_false, ih]

/-- A fold fails at an element, in the state that the elements before it have left. -/
theorem exists_of_foldlM_eq_error {f : β → α → Except Error β} {as : List α} {b : β}
    (h : as.foldlM f b = .error e) :
    ∃ before a after b', as = before ++ a :: after ∧ before.foldlM f b = .ok b' ∧
      f b' a = .error e := by
  induction as generalizing b with
  | nil => exact absurd h pure_ne_error
  | cons a as ih =>
    rw [List.foldlM_cons, bind_eq_error_iff] at h
    rcases h with hfirst | ⟨b₁, hfirst, hrest⟩
    · exact ⟨[], a, as, b, rfl, rfl, hfirst⟩
    · obtain ⟨before, a', after, b', rfl, hbefore, hf⟩ := ih hrest
      refine ⟨a :: before, a', after, b', rfl, ?_, hf⟩
      rw [List.foldlM_cons, bind_eq_ok_iff]
      exact ⟨b₁, hfirst, hbefore⟩

/-- The same for elements that know their places. -/
theorem exists_of_foldlM_zipIdx_eq_error {f : β → α × ℕ → Except Error β} {as : List α} {b : β}
    (h : as.zipIdx.foldlM f b = .error e) :
    ∃ (i : ℕ) (a : α) (b' : β), as[i]? = some a ∧ (as.take i).zipIdx.foldlM f b = .ok b' ∧
      f b' (a, i) = .error e := by
  obtain ⟨before, ⟨a, i⟩, after, b', hsplit, hbefore, hf⟩ := exists_of_foldlM_eq_error h
  obtain ⟨first, rest, rfl, rfl, hrest⟩ := List.zipIdx_eq_append_iff.mp hsplit
  obtain ⟨a', rest, rfl, hentry, -⟩ := List.zipIdx_eq_cons_iff.mp hrest.symm
  cases hentry
  refine ⟨_, a, b', ?_, ?_, hf⟩
  · simp
  · rw [Nat.zero_add, List.take_left]
    exact hbefore

end Failure
end MeasuredJob
