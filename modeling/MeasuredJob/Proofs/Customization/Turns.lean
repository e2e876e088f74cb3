import Mathlib.Logic.Relation
import MeasuredJob.Proofs.Assembly.Contributors

/-!
# Turns of the second phase

Addons customize one after another, and each may edit every container.  The pipeline compares what
an addon leaves with what it found: a container may only change its name, its job group and its
contributor when it is marked as contributed by the addon whose turn it is.  The mark may change,
so an addon can hand a container over to another one, which then counts as its owner.  The main
statement follows a container that is renamed or moved back through such handovers to the addon
that has contributed it.
-/

namespace MeasuredJob
namespace Assembly

open Success

/-- The job group and the name of the container at the place `i`. -/
def keyAt (assembly : Assembly) (i : Nat) : Option (String × String) :=
  assembly.containers[i]?.map Container.key

/-- The name, the job group and the mark of the container at the place `i`. -/
def identityAt (assembly : Assembly) (i : Nat) : Option (String × String × Option Contributor) :=
  assembly.containers[i]?.map identity

theorem keyAt_eq_identityAt (assembly : Assembly) (i : Nat) :
    assembly.keyAt i = (assembly.identityAt i).map fun e => (e.2.1, e.1) := by
  rw [keyAt, identityAt, Option.map_map]
  rfl

theorem contributorAt_eq_identityAt (assembly : Assembly) (i : Nat) :
    assembly.contributorAt i = (assembly.identityAt i).bind fun e => e.2.2 := by
  rw [contributorAt, identityAt, Option.bind_map]
  rfl

/-! ## One turn -/

theorem length_customizeBy {a b : Assembly} {entry : Configured Addon × Nat}
    (h : customizeBy a entry = .ok b) : b.containers.length = a.containers.length := by
  obtain ⟨revised, -, -, rfl⟩ := customizeBy_eq_ok_iff.mp h
  exact revised.2

theorem offence?_of_customizeBy {a b : Assembly} {addon : Configured Addon} {index : Nat}
    (h : customizeBy a (addon, index) = .ok b) {i : Nat} {c c' : Container}
    (hc : a.containers[i]? = some c) (hc' : b.containers[i]? = some c') :
    offence? a.groups addon.identifier index (c, c') = none := by
  obtain ⟨revised, -, hoffence, rfl⟩ := customizeBy_eq_ok_iff.mp h
  refine hoffence (c, c') (List.mem_of_getElem? (i := i) ?_)
  rw [List.getElem?_zip_eq_some]
  exact ⟨hc, hc'⟩

/-- Whoever changes the identity of a container is the one that its mark names. -/
theorem contributorAt_of_identityAt_ne {a b : Assembly} {addon : Configured Addon} {index : Nat}
    (h : customizeBy a (addon, index) = .ok b) {i : Nat}
    (hchanged : b.identityAt i ≠ a.identityAt i) :
    a.contributorAt i = some (.addon index) := by
  cases hc : a.containers[i]? with
  | none =>
    have hnone : b.containers[i]? = none := by
      rw [List.getElem?_eq_none_iff] at hc ⊢
      rwa [length_customizeBy h]
    simp [identityAt, hc, hnone] at hchanged
  | some c =>
    obtain ⟨c', hc'⟩ : ∃ c', b.containers[i]? = some c' := by
      have hlt : i < b.containers.length := by
        rw [length_customizeBy h]
        exact (List.getElem?_eq_some_iff.mp hc).1
      exact ⟨_, List.getElem?_eq_getElem hlt⟩
    rcases (offence?_eq_none_iff.mp (offence?_of_customizeBy h hc hc')).1 with hkept | howner
    · simp [identityAt, hc, hc', hkept] at hchanged
    · simp [contributorAt, hc, howner]

/-- Whoever changes the key or the mark of a container is the one that the mark names. -/
theorem contributorAt_of_changed {a b : Assembly} {addon : Configured Addon} {index : Nat}
    (h : customizeBy a (addon, index) = .ok b) {i : Nat}
    (hchanged : b.keyAt i ≠ a.keyAt i ∨ b.contributorAt i ≠ a.contributorAt i) :
    a.contributorAt i = some (.addon index) := by
  refine contributorAt_of_identityAt_ne h fun hkept => ?_
  rw [keyAt_eq_identityAt, keyAt_eq_identityAt, contributorAt_eq_identityAt,
    contributorAt_eq_identityAt, hkept] at hchanged
  simp at hchanged

/-! ## All turns -/

theorem customize_take_succ {addons : List (Configured Addon)} {start b : Assembly} {index : Nat}
    (hindex : index < addons.length) :
    start.customize (addons.take (index + 1)) = .ok b ↔
      ∃ a, start.customize (addons.take index) = .ok a ∧
        customizeBy a (addons[index], index) = .ok b := by
  rw [List.take_succ_eq_append_getElem hindex, customize, List.zipIdx_append,
    foldlM_append_eq_ok_iff, List.zipIdx_cons, List.zipIdx_nil, List.length_take,
    Nat.min_eq_left (Nat.le_of_lt hindex), Nat.zero_add]
  simp only [foldlM_singleton_eq_ok_iff]
  rfl

/-- The turn of the addon at `index`, in the second phase that begins with `start`: what the addon
finds, and what it leaves. -/
structure Turn (addons : List (Configured Addon)) (start : Assembly) (index : Nat)
    (found left : Assembly) : Prop where
  lt : index < addons.length
  found_eq : start.customize (addons.take index) = .ok found
  left_eq : start.customize (addons.take (index + 1)) = .ok left

variable {addons : List (Configured Addon)} {start : Assembly}

theorem Turn.step {index : Nat} {found left : Assembly} (h : Turn addons start index found left) :
    ∃ addon, addons[index]? = some addon ∧ customizeBy found (addon, index) = .ok left := by
  obtain ⟨a, ha, hstep⟩ := (customize_take_succ h.lt).mp h.left_eq
  rw [h.found_eq] at ha
  cases ha
  exact ⟨_, List.getElem?_eq_getElem h.lt, hstep⟩

theorem exists_customize_take {b : Assembly} (h : start.customize addons = .ok b) (n : Nat) :
    ∃ a, start.customize (addons.take n) = .ok a := by
  rw [← List.take_append_drop n addons, customize, List.zipIdx_append,
    foldlM_append_eq_ok_iff] at h
  obtain ⟨a, ha, -⟩ := h
  exact ⟨a, ha⟩

/-- In a second phase that succeeds, every addon has its turn. -/
theorem exists_turn {b : Assembly} (h : start.customize addons = .ok b) {index : Nat}
    (hindex : index < addons.length) : ∃ found left, Turn addons start index found left := by
  obtain ⟨found, hfound⟩ := exists_customize_take h index
  obtain ⟨left, hleft⟩ := exists_customize_take h (index + 1)
  exact ⟨found, left, hindex, hfound, hleft⟩

/-- In its turn the addon at `index`, which the container at the place `i` is marked with, marks it
with the addon at `index'`. -/
def HandsOver (addons : List (Configured Addon)) (start : Assembly) (i index index' : Nat) : Prop :=
  ∃ found left, Turn addons start index found left ∧ found.contributorAt i = some (.addon index) ∧
    left.contributorAt i = some (.addon index') ∧ index ≠ index'

/-- A container stays what it is called, where it runs and whose it is said to be until the addon
that it is marked with has its turn. -/
theorem identityAt_kept {i : Nat} :
    ∀ n ≤ addons.length, (∀ k < n, start.contributorAt i ≠ some (.addon k)) →
      ∀ a, start.customize (addons.take n) = .ok a → a.identityAt i = start.identityAt i := by
  intro n
  induction n with
  | zero =>
    intro _ _ a ha
    cases ha
    rfl
  | succ n ih =>
    intro hlength hforeign a ha
    obtain ⟨found, hfound, hstep⟩ := (customize_take_succ hlength).mp ha
    have hbefore := ih (Nat.le_of_lt hlength) (fun k hk => hforeign k (Nat.lt_succ_of_lt hk))
      found hfound
    by_contra hlost
    have howner := contributorAt_of_identityAt_ne hstep (by rwa [hbefore])
    rw [contributorAt_eq_identityAt, hbefore, ← contributorAt_eq_identityAt] at howner
    exact hforeign n (Nat.lt_succ_self n) howner

/-- Until its turn has come, nobody takes a container away from an addon. -/
theorem contributorAt_kept {index i : Nat} (hstart : start.contributorAt i = some (.addon index)) :
    ∀ n ≤ index, n ≤ addons.length → ∀ a, start.customize (addons.take n) = .ok a →
      a.contributorAt i = some (.addon index) := by
  intro n hn hlength a ha
  have hforeign : ∀ k < n, start.contributorAt i ≠ some (.addon k) := by
    intro k hk hmark
    rw [hstart] at hmark
    cases hmark
    exact absurd hk (Nat.not_lt.mpr hn)
  rw [contributorAt_eq_identityAt, identityAt_kept n hlength hforeign a ha,
    ← contributorAt_eq_identityAt, hstart]

/-- The mark of a container leads back, through handovers, to its mark at the start. -/
theorem exists_handovers {i : Nat} :
    ∀ n ≤ addons.length, ∀ a, start.customize (addons.take n) = .ok a →
      ∀ index, a.contributorAt i = some (.addon index) →
        ∃ k, start.contributorAt i = some (.addon k) ∧ (k = index ∨ k < n) ∧
          Relation.ReflTransGen (HandsOver addons start i) k index := by
  intro n
  induction n with
  | zero =>
    intro _ a ha index hmark
    cases ha
    exact ⟨index, hmark, .inl rfl, .refl⟩
  | succ n ih =>
    intro hlength a ha index hmark
    obtain ⟨found, hfound, hstep⟩ := (customize_take_succ hlength).mp ha
    have hturn : Turn addons start n found a := ⟨hlength, hfound, ha⟩
    by_cases hkept : found.contributorAt i = some (.addon index)
    · obtain ⟨k, hk, hbefore, hchain⟩ := ih (Nat.le_of_lt hlength) found hfound index hkept
      exact ⟨k, hk, hbefore.imp_right Nat.lt_succ_of_lt, hchain⟩
    · have howner : found.contributorAt i = some (.addon n) :=
        contributorAt_of_changed hstep (.inr (by rw [hmark]; exact Ne.symm hkept))
      obtain ⟨k, hk, hbefore, hchain⟩ := ih (Nat.le_of_lt hlength) found hfound n howner
      have hne : n ≠ index := fun h => hkept (h ▸ howner)
      refine ⟨k, hk, .inr ?_, hchain.tail ⟨found, a, hturn, howner, hmark, hne⟩⟩
      rcases hbefore with rfl | hlt
      · exact Nat.lt_succ_self k
      · exact Nat.lt_succ_of_lt hlt

/-- An addon that renames or moves a container has contributed it or has got it by handovers from
the one that did.  It has contributed it exactly when there was no handover before. -/
theorem Turn.handovers_of_displaced {index : Nat} {found left : Assembly}
    (h : Turn addons start index found left) {i : Nat} (hmoved : left.keyAt i ≠ found.keyAt i) :
    ∃ k ≤ index, start.contributorAt i = some (.addon k) ∧
      Relation.ReflTransGen (HandsOver addons start i) k index ∧
      (k = index ↔ ∀ j < index, ∀ j', ¬HandsOver addons start i j j') := by
  obtain ⟨addon, -, hstep⟩ := h.step
  have howner := contributorAt_of_changed hstep (.inl hmoved)
  obtain ⟨k, hk, hbefore, hchain⟩ :=
    exists_handovers index (Nat.le_of_lt h.lt) found h.found_eq index howner
  refine ⟨k, hbefore.elim Nat.le_of_eq Nat.le_of_lt, hk, hchain, ?_, ?_⟩
  · rintro rfl j hj j' ⟨found', left', hturn, hmark, -⟩
    have hkept := contributorAt_kept hk j (Nat.le_of_lt hj) (Nat.le_of_lt hturn.lt) found'
      hturn.found_eq
    rw [hmark] at hkept
    cases hkept
    exact absurd hj (Nat.lt_irrefl _)
  · intro hnone
    rcases hbefore with heq | hlt
    · exact heq
    · rcases Relation.ReflTransGen.cases_head hchain with heq | ⟨j', hfirst, -⟩
      · exact heq
      · exact absurd hfirst (hnone k hlt j')

end Assembly
end MeasuredJob
