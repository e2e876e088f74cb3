import MeasuredJob.Proofs.Assembly.Groups
import MeasuredJob.Proofs.Customization.Turns
import MeasuredJob.Proofs.Failure

/-!
# Offences of addons

What an addon may leave in the place of a container, said without the check that the second phase
makes.  A turn succeeds when the addon itself does and all that it leaves is permitted.  Otherwise
it fails with the error of the addon, or with the offence against the first container that is not
treated as permitted.
-/

namespace MeasuredJob

theorem findSome?_eq_some_iff_getElem? {α β : Type} {f : α → Option β} {xs : List α} {b : β} :
    xs.findSome? f = some b ↔ ∃ (i : ℕ) (x : α), xs[i]? = some x ∧ f x = some b ∧
      ∀ k < i, ∀ y, xs[k]? = some y → f y = none := by
  rw [List.findSome?_eq_some_iff]
  constructor
  · rintro ⟨before, x, after, rfl, hx, hbefore⟩
    refine ⟨before.length, x, by simp, hx, fun k hk y hy => hbefore y ?_⟩
    rw [List.getElem?_append_left hk] at hy
    exact List.mem_of_getElem? hy
  · rintro ⟨i, x, hi, hx, hbefore⟩
    obtain ⟨hlt, rfl⟩ := List.getElem?_eq_some_iff.mp hi
    refine ⟨xs.take i, xs[i], xs.drop (i + 1), ?_, hx, fun y hy => ?_⟩
    · rw [List.getElem_cons_drop, List.take_append_drop]
    · obtain ⟨k, hk⟩ := List.mem_iff_getElem?.mp hy
      have hki : k < i := by
        have := (List.getElem?_eq_some_iff.mp hk).1
        rw [List.length_take] at this
        omega
      rw [List.getElem?_take_of_lt hki] at hk
      exact hbefore k hki y hk

namespace Assembly

open Success Failure

/-- The addon at `index` may leave `after` in the place of `before`: it is called what it was called,
runs where it ran and belongs to whom it belonged, unless it was the addon's own, and its job group
is there. -/
structure Permits (groups : List JobGroup) (index : ℕ) (before after : Container) : Prop where
  own : identity after = identity before ∨ before.contributor = some (.addon index)
  placed : after.jobGroup ∈ groups.map JobGroup.name

/-- What the addon at `index` is reproached with when it leaves `after` in the place of `before`.
Whose container it is comes before where it runs. -/
inductive Offends (groups : List JobGroup) (identifier : String) (index : ℕ)
    (before after : Container) : Error → Prop where
  | foreign (hchanged : identity after ≠ identity before)
      (hforeign : before.contributor ≠ some (.addon index)) :
      Offends groups identifier index before after
        (.foreignContainerModified identifier before.jobGroup before.name)
  | misplaced (hown : identity after = identity before ∨ before.contributor = some (.addon index))
      (hnone : after.jobGroup ∉ groups.map JobGroup.name) :
      Offends groups identifier index before after (.unknownJobGroup identifier after.jobGroup)

/-- The offence against the first container, in the order of containers, that is not treated as
permitted. -/
def FirstOffence (groups : List JobGroup) (identifier : String) (index : ℕ)
    (before after : List Container) (e : Error) : Prop :=
  ∃ (i : ℕ) (c c' : Container), before[i]? = some c ∧ after[i]? = some c' ∧
    Offends groups identifier index c c' e ∧
    ∀ k < i, ∀ d d', before[k]? = some d → after[k]? = some d' → Permits groups index d d'

def PermitsAll (groups : List JobGroup) (index : ℕ) (before after : List Container) : Prop :=
  ∀ (i : ℕ) (c c' : Container), before[i]? = some c → after[i]? = some c' → Permits groups index c c'

/-! ## The check -/

variable {groups : List JobGroup} {identifier : String} {index : ℕ} {e : Error}

theorem offence?_eq_none_iff_permits {before after : Container} :
    offence? groups identifier index (before, after) = none ↔
      Permits groups index before after := by
  rw [offence?_eq_none_iff, hasGroup_iff]
  exact ⟨fun h => ⟨h.1, h.2⟩, fun h => ⟨h.own, h.placed⟩⟩

theorem offence?_eq_some_iff {before after : Container} :
    offence? groups identifier index (before, after) = some e ↔
      Offends groups identifier index before after e := by
  simp only [offence?]
  by_cases hforeign :
      identity after ≠ identity before ∧ before.contributor ≠ some (.addon index)
  · rw [if_pos hforeign, Option.some.injEq]
    constructor
    · rintro rfl
      exact .foreign hforeign.1 hforeign.2
    · intro h
      cases h with
      | foreign => rfl
      | misplaced hown => exact absurd hforeign (by rwa [not_and_or, not_not, not_not])
  · rw [if_neg hforeign]
    have hgroup : hasGroup groups after.jobGroup = false ↔
        after.jobGroup ∉ groups.map JobGroup.name := by
      rw [← hasGroup_iff, Bool.not_eq_true]
    by_cases hnone : hasGroup groups after.jobGroup = false
    · rw [if_pos hnone, Option.some.injEq]
      constructor
      · rintro rfl
        exact .misplaced (by rwa [not_and_or, not_not, not_not] at hforeign) (hgroup.mp hnone)
      · intro h
        cases h with
        | foreign hchanged hother => exact absurd ⟨hchanged, hother⟩ hforeign
        | misplaced => rfl
    · rw [if_neg hnone]
      constructor
      · exact fun h => absurd h (by simp)
      · intro h
        cases h with
        | foreign hchanged hother => exact absurd ⟨hchanged, hother⟩ hforeign
        | misplaced _ hmissing => exact absurd (hgroup.mpr hmissing) hnone

theorem findSome?_offence?_eq_none_iff {before after : List Container} :
    (before.zip after).findSome? (offence? groups identifier index) = none ↔
      PermitsAll groups index before after := by
  rw [List.findSome?_eq_none_iff]
  constructor
  · intro h i c c' hc hc'
    refine offence?_eq_none_iff_permits.mp (h (c, c') (List.mem_of_getElem? (i := i) ?_))
    exact List.getElem?_zip_eq_some.mpr ⟨hc, hc'⟩
  · rintro h ⟨c, c'⟩ hstep
    obtain ⟨i, hi⟩ := List.mem_iff_getElem?.mp hstep
    obtain ⟨hc, hc'⟩ := List.getElem?_zip_eq_some.mp hi
    exact offence?_eq_none_iff_permits.mpr (h i c c' hc hc')

theorem findSome?_offence?_eq_some_iff {before after : List Container} :
    (before.zip after).findSome? (offence? groups identifier index) = some e ↔
      FirstOffence groups identifier index before after e := by
  rw [findSome?_eq_some_iff_getElem?]
  simp only [Prod.exists, Prod.forall, List.getElem?_zip_eq_some, and_assoc, and_imp,
    offence?_eq_some_iff, offence?_eq_none_iff_permits]
  rfl

/-! ## One turn -/

theorem customizeBy_eq_ok_iff_permits {a b : Assembly} {addon : Configured Addon} :
    customizeBy a (addon, index) = .ok b ↔
      ∃ revised, addon.behaviour.customize a.groups a.containers = .ok revised ∧
        PermitsAll a.groups index a.containers revised.1 ∧
        b = { a with containers := revised.1 } := by
  simp only [customizeBy, bind_eq_ok_iff, ↓check_bind_eq_ok_iff, pure_eq_ok_iff,
    findSome?_offence?_eq_none_iff]
  exact exists_congr fun revised => and_congr_right fun _ => and_congr_right fun _ => eq_comm

theorem customizeBy_eq_error_iff {a : Assembly} {addon : Configured Addon} :
    customizeBy a (addon, index) = .error e ↔
      addon.behaviour.customize a.groups a.containers = .error e ∨
        ∃ revised, addon.behaviour.customize a.groups a.containers = .ok revised ∧
          FirstOffence a.groups addon.identifier index a.containers revised.1 e := by
  simp only [customizeBy, bind_eq_error_iff, ↓check_bind_eq_error_iff, pure_ne_error, and_false,
    or_false, findSome?_offence?_eq_some_iff]

/-- A turn that goes on leaves every container in a job group that is there, whoever may own it. -/
theorem placed_customizeBy {a b : Assembly} {addon : Configured Addon}
    (h : customizeBy a (addon, index) = .ok b) : b.Placed := by
  obtain ⟨revised, -, hpermits, rfl⟩ := customizeBy_eq_ok_iff_permits.mp h
  intro c' hc'
  obtain ⟨i, hi⟩ := List.mem_iff_getElem?.mp hc'
  -- The turn keeps the number of containers, so there is one that `c'` has taken the place of.
  have hlt : i < a.containers.length := revised.2 ▸ (List.getElem?_eq_some_iff.mp hi).1
  exact hasGroup_iff.mpr (hpermits i _ c' (List.getElem?_eq_getElem hlt) hi).placed

theorem placed_customize {addons : List (Configured Addon)} {a b : Assembly}
    (h : a.customize addons = .ok b) (ha : a.Placed) : b.Placed :=
  foldlM_induct (motive := Placed) h ha fun _ _ _ _ _ hstep => placed_customizeBy hstep

theorem exists_firstOffence {before after : List Container}
    (h : ¬PermitsAll groups index before after) :
    ∃ e, FirstOffence groups identifier index before after e := by
  rw [← @findSome?_offence?_eq_none_iff groups identifier, ← ne_eq,
    Option.ne_none_iff_exists'] at h
  obtain ⟨e, he⟩ := h
  exact ⟨e, findSome?_offence?_eq_some_iff.mp he⟩

/-- The second phase fails in a turn that fails, whatever addons come later. -/
theorem customize_eq_error {addons : List (Configured Addon)} {start found : Assembly}
    {addon : Configured Addon} (haddon : addons[index]? = some addon)
    (hfound : start.customize (addons.take index) = .ok found)
    (h : customizeBy found (addon, index) = .error e) : start.customize addons = .error e := by
  obtain ⟨hlt, rfl⟩ := List.getElem?_eq_some_iff.mp haddon
  have hsplit : addons.zipIdx = (addons.take index).zipIdx ++
      (addons[index], index) :: (addons.drop (index + 1)).zipIdx (index + 1) := by
    have hplaces := congrArg List.zipIdx (List.take_append_drop index addons)
    rw [List.zipIdx_append, List.length_take, Nat.min_eq_left (Nat.le_of_lt hlt), Nat.zero_add,
      List.drop_eq_getElem_cons hlt, List.zipIdx_cons] at hplaces
    exact hplaces.symm
  rw [customize, hsplit, List.foldlM_append, ← customize, hfound]
  show List.foldlM customizeBy found (_ :: _) = _
  rw [List.foldlM_cons, h]
  rfl

end Assembly
end MeasuredJob
