import Mathlib.Data.List.Perm.Basic
import Mathlib.Data.List.Sigma
import Mathlib.Logic.Equiv.Basic
import MeasuredJob.Proofs.Success

/-!
# Lists in another order

Two lists of the same elements in different orders, with the permutation of the places that takes
one to the other.  Whoever refers to an element by its place has to follow that permutation.
-/

namespace MeasuredJob

/-- The element of `as` at each place is the one of `bs` at the place that `σ` moves it to. -/
def Rearranged {α : Type} (σ : Equiv.Perm ℕ) (as bs : List α) : Prop :=
  ∀ i, bs[σ i]? = as[i]?

namespace Rearranged

variable {α β : Type} {σ : Equiv.Perm ℕ} {as bs : List α}

theorem symm (h : Rearranged σ as bs) : Rearranged σ.symm bs as := by
  intro i
  rw [← h, Equiv.apply_symm_apply]

/-- Both lists hold the same elements with their places, up to the permutation. -/
theorem perm_zipIdx (h : Rearranged σ as bs) :
    bs.zipIdx.Perm (as.zipIdx.map fun e => (e.1, σ e.2)) := by
  have hplaces : (as.zipIdx.map fun e => (e.1, σ e.2)).Nodup := by
    refine List.Nodup.map (fun e e' heq => ?_) (List.nodup_zipIdx_map_snd as).of_map
    rw [Prod.mk.injEq, σ.injective.eq_iff] at heq
    exact Prod.ext heq.1 heq.2
  rw [List.perm_ext_iff_of_nodup (List.nodup_zipIdx_map_snd bs).of_map hplaces]
  rintro ⟨b, j⟩
  rw [List.mem_zipIdx_iff_getElem?, List.mem_map]
  constructor
  · intro hb
    refine ⟨(b, σ.symm j), ?_, by rw [Equiv.apply_symm_apply]⟩
    rw [List.mem_zipIdx_iff_getElem?, ← h, Equiv.apply_symm_apply]
    exact hb
  · rintro ⟨⟨a, i⟩, ha, heq⟩
    obtain ⟨rfl, rfl⟩ := Prod.mk.inj heq
    rw [List.mem_zipIdx_iff_getElem?] at ha
    exact (h i).trans ha

theorem perm (h : Rearranged σ as bs) : bs.Perm as := by
  have hplaces := h.perm_zipIdx.map Prod.fst
  rw [List.map_map] at hplaces
  simpa [Function.comp_def, List.zipIdx_map_fst] using hplaces

theorem nil (σ : Equiv.Perm ℕ) : Rearranged σ ([] : List α) [] := fun _ => rfl

/-- Move the places behind the first one. -/
def shift (σ : Equiv.Perm ℕ) : Equiv.Perm ℕ where
  toFun i := i.casesOn 0 fun i => σ i + 1
  invFun i := i.casesOn 0 fun i => σ.symm i + 1
  left_inv i := by cases i <;> simp
  right_inv i := by cases i <;> simp

theorem cons (h : Rearranged σ as bs) (a : α) : Rearranged (shift σ) (a :: as) (a :: bs) := by
  intro i
  cases i with
  | zero => rfl
  | succ i => exact h i

theorem swap (a b : α) (as : List α) :
    Rearranged (Equiv.swap 0 1) (b :: a :: as) (a :: b :: as) := by
  intro i
  match i with
  | 0 => rfl
  | 1 => rfl
  | i + 2 =>
    rw [Equiv.swap_apply_of_ne_of_ne (Nat.succ_ne_zero _) (by omega)]
    rfl

theorem trans {cs : List α} {τ : Equiv.Perm ℕ} (h : Rearranged σ as bs)
    (h' : Rearranged τ bs cs) : Rearranged (σ.trans τ) as cs :=
  fun i => (h' (σ i)).trans (h i)

theorem exists_of_perm (h : as.Perm bs) : ∃ σ, Rearranged σ as bs := by
  induction h with
  | nil => exact ⟨Equiv.refl ℕ, nil _⟩
  | cons a _ ih =>
    obtain ⟨σ, hσ⟩ := ih
    exact ⟨shift σ, hσ.cons a⟩
  | swap a b as => exact ⟨Equiv.swap 0 1, swap a b as⟩
  | trans _ _ ih ih' =>
    obtain ⟨σ, hσ⟩ := ih
    obtain ⟨τ, hτ⟩ := ih'
    exact ⟨σ.trans τ, hσ.trans hτ⟩

/-- A traversal that succeeds also succeeds in the other order, and its results are rearranged like
its elements. -/
theorem exists_forall₂ {f : α → Except Error β} {rs : List β} (h : Rearranged σ as bs)
    (hrs : List.Forall₂ (fun a r => f a = .ok r) as rs) :
    ∃ rs', List.Forall₂ (fun b r => f b = .ok r) bs rs' ∧ Rearranged σ rs rs' := by
  obtain ⟨rs', hrs', -⟩ := List.perm_comp_forall₂ h.perm hrs
  refine ⟨rs', hrs', fun i => ?_⟩
  rw [Success.getElem?_of_forall₂ hrs', Success.getElem?_of_forall₂ hrs, h]

end Rearranged

/-- What does not depend on the places of elements can be read off the elements. -/
theorem flatMap_zipIdx {α β : Type} (as : List α) (f : α → List β) (n : ℕ) :
    ((as.zipIdx n).flatMap fun e => f e.1) = as.flatMap f := by
  conv_rhs => rw [← List.zipIdx_map_fst n as, List.flatMap_map]

/-- Elements that all lead to one result are at most one, if no result comes twice. -/
theorem forall_mem_zipIdx_iff {α : Type} {P : α → Prop} {as : List α} {n : ℕ} :
    (∀ entry ∈ as.zipIdx n, P entry.1) ↔ ∀ a ∈ as, P a := by
  conv_rhs => rw [← List.zipIdx_map_fst n as, List.forall_mem_map]

theorem insertIdx_length_append {α : Type} (as bs : List α) (a : α) :
    (as ++ bs).insertIdx as.length a = as ++ a :: bs := by
  induction as with
  | nil => rfl
  | cons first as ih => rw [List.cons_append, List.length_cons, List.insertIdx_succ_cons, ih,
      List.cons_append]

theorem countP_le_one_of_nodup_flatMap {α β : Type} {as : List α} {f : α → List β}
    (hnodup : (as.flatMap f).Nodup) {p : α → Bool} {b : β}
    (h : ∀ a ∈ as, p a = true → b ∈ f a) : as.countP p ≤ 1 := by
  induction as with
  | nil => exact Nat.zero_le 1
  | cons a as ih =>
    rw [List.flatMap_cons, List.nodup_append] at hnodup
    have hrest := ih hnodup.2.1 fun a ha => h a (List.mem_cons_of_mem _ ha)
    by_cases ha : p a = true
    · have hnone : as.countP p = 0 := by
        refine List.countP_eq_zero.mpr fun a' ha' hp => ?_
        have hagain := h a' (List.mem_cons_of_mem _ ha') hp
        exact hnodup.2.2 b (h a List.mem_cons_self ha) b (List.mem_flatMap.mpr ⟨a', ha', hagain⟩) rfl
      rw [List.countP_cons_of_pos ha, hnone]
    · rwa [List.countP_cons_of_neg ha]

/-- Where only one element fits, it is all that is left of the list. -/
theorem filter_eq_singleton_of_unique {α : Type} {p : α → Bool} {as : List α} (hnodup : as.Nodup)
    {a : α} (ha : a ∈ as) (hpa : p a = true) (hunique : ∀ b ∈ as, p b = true → b = a) :
    as.filter p = [a] := by
  rw [← List.perm_singleton, List.perm_ext_iff_of_nodup (hnodup.filter p) (List.nodup_singleton a)]
  intro b
  rw [List.mem_filter, List.mem_singleton]
  constructor
  · intro h
    exact hunique b h.1 h.2
  · intro h
    rw [h]
    exact ⟨ha, hpa⟩

/-- Where only one element fits, a search finds it wherever it is. -/
theorem find?_eq_some_iff_of_unique {α : Type} {p : α → Bool} {as : List α}
    (hunique : ∀ a ∈ as, ∀ b ∈ as, p a = true → p b = true → a = b) {a : α} :
    as.find? p = some a ↔ a ∈ as ∧ p a = true := by
  constructor
  · intro h
    exact ⟨List.mem_of_find?_eq_some h, List.find?_some h⟩
  · rintro ⟨ha, hpa⟩
    obtain ⟨b, hb⟩ := Option.isSome_iff_exists.mp (List.find?_isSome.mpr ⟨a, ha, hpa⟩)
    rw [hb, hunique b (List.mem_of_find?_eq_some hb) a ha (List.find?_some hb) hpa]

end MeasuredJob
