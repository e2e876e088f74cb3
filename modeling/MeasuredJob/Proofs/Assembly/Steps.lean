import MeasuredJob.Assembly.Customize
import MeasuredJob.Proofs.Success

/-!
# Steps of an assembly

What each step of the two phases did when it succeeded: one metric's contribution, one addon's
contribution, one addon's customization, and the check of names after either phase.  Every
statement is an equivalence, so that nothing about a step is left in its definition.
-/

namespace MeasuredJob

/-! ## The check of names -/

theorem firstRepeatAfter_eq_none_iff {α : Type} [DecidableEq α] {seen xs : List α} :
    firstRepeatAfter seen xs = none ↔ xs.Nodup ∧ ∀ x ∈ xs, x ∉ seen := by
  induction xs generalizing seen with
  | nil => simp [firstRepeatAfter]
  | cons x xs ih =>
    rw [firstRepeatAfter]
    by_cases hx : x ∈ seen
    · simp [hx]
    · rw [if_neg hx, ih, List.nodup_cons]
      constructor
      · rintro ⟨hnodup, hfresh⟩
        have hnot : x ∉ xs := fun h => hfresh x h List.mem_cons_self
        refine ⟨⟨hnot, hnodup⟩, fun y hy => ?_⟩
        rcases List.mem_cons.mp hy with rfl | hy
        · exact hx
        · exact fun hseen => hfresh y hy (List.mem_cons_of_mem _ hseen)
      · rintro ⟨⟨hnot, hnodup⟩, hfresh⟩
        refine ⟨hnodup, fun y hy hmem => ?_⟩
        rcases List.mem_cons.mp hmem with rfl | hseen
        · exact hnot hy
        · exact hfresh y (List.mem_cons_of_mem _ hy) hseen

theorem firstRepeat?_eq_none_iff {α : Type} [DecidableEq α] {xs : List α} :
    firstRepeat? xs = none ↔ xs.Nodup := by
  rw [firstRepeat?, firstRepeatAfter_eq_none_iff]
  simp

namespace Assembly

open Success

theorem checkUnique_eq_ok_iff {a : Assembly} :
    a.checkUnique = .ok () ↔
      (a.containers.map Container.key).Nodup ∧ (a.volumes.map Volume.name).Nodup := by
  rw [checkUnique, Error.check_eq_ok_iff, repeated?, ← firstRepeat?_eq_none_iff,
    ← firstRepeat?_eq_none_iff]
  cases firstRepeat? (a.containers.map Container.key) <;> simp

/-! ## Contributions -/

theorem misplaced?_eq_none_iff {groups : List JobGroup} {identifier : String}
    {containers : List Container} :
    misplaced? groups identifier containers = none ↔
      ∀ c ∈ containers, hasGroup groups c.jobGroup = true := by
  simp [misplaced?]

theorem addMetric_eq_ok_iff {ctx : Context} {a b : Assembly} {metric : Configured Metric}
    {index : Nat} :
    addMetric ctx a (metric, index) = .ok b ↔
      (metric.behaviour.requiresApplication = true → ctx.completeApplication?.isSome = true) ∧
      ∃ containers, metric.behaviour.containers ctx = .ok containers ∧
        (∀ c ∈ containers.map (adoptFromMetric metric.behaviour.kind index),
          hasGroup b.groups c.jobGroup = true) ∧
        b = {
          groups := mergeGroups a.groups (metricGroups ctx metric.behaviour)
          containers :=
            a.containers ++ containers.map (adoptFromMetric metric.behaviour.kind index)
          volumes := a.volumes ++ metric.behaviour.volumes } := by
  simp only [addMetric, guard_eq_ok_iff, bind_eq_ok_iff, ↓check_bind_eq_ok_iff, pure_eq_ok_iff,
    misplaced?_eq_none_iff]
  refine and_congr ?_ (exists_congr fun containers => and_congr_right fun _ => ?_)
  · cases metric.behaviour.requiresApplication <;> cases ctx.completeApplication? <;> simp
  · constructor
    · rintro ⟨hplaced, rfl⟩
      exact ⟨hplaced, rfl⟩
    · rintro ⟨hplaced, rfl⟩
      exact ⟨hplaced, rfl⟩

theorem addAddon_eq_ok_iff {ctx : Context} {a b : Assembly} {addon : Configured Addon}
    {index : Nat} :
    addAddon ctx a (addon, index) = .ok b ↔
      (addon.behaviour.scope.target = "" ∨
        hasGroup a.groups addon.behaviour.scope.target = true) ∧
      ∃ contributed,
        List.Forall₂ (fun group cs => addonContainers ctx addon.behaviour index group = .ok cs)
          (a.groups.filter fun g => addon.behaviour.scope.targetsGroup g.name) contributed ∧
        b = { a with
          containers := a.containers ++ contributed.flatten
          volumes := a.volumes ++ addon.behaviour.volumes } := by
  simp only [addAddon, guard_eq_ok_iff, bind_eq_ok_iff, pure_eq_ok_iff, mapM_eq_ok_iff]
  refine and_congr ?_ (exists_congr fun contributed => and_congr_right fun _ => eq_comm)
  rw [not_and_or, not_not, Bool.not_eq_false]

/-- The addon applies to all job groups, or to one that is there. -/
def HasTarget (groups : List JobGroup) (addon : Addon) : Prop :=
  addon.scope.target = "" ∨ hasGroup groups addon.scope.target = true

/-- The containers that the addon of an entry adds to the targeted groups. -/
def contribution (ctx : Context) (groups : List JobGroup) (entry : Configured Addon × Nat) :
    Except Error (List Container) := do
  let contributed ← (groups.filter fun g => entry.1.behaviour.scope.targetsGroup g.name).mapM
    (addonContainers ctx entry.1.behaviour entry.2)
  pure contributed.flatten

theorem addAddon_eq_ok_iff_contribution {ctx : Context} {a b : Assembly}
    {entry : Configured Addon × Nat} :
    addAddon ctx a entry = .ok b ↔ HasTarget a.groups entry.1.behaviour ∧
      ∃ new, contribution ctx a.groups entry = .ok new ∧
        b = { a with
          containers := a.containers ++ new
          volumes := a.volumes ++ entry.1.behaviour.volumes } := by
  rw [addAddon_eq_ok_iff, ← HasTarget]
  refine and_congr_right fun _ => ?_
  simp only [contribution, bind_eq_ok_iff, mapM_eq_ok_iff, pure_eq_ok_iff]
  constructor
  · rintro ⟨contributed, hcontributed, rfl⟩
    exact ⟨_, ⟨contributed, hcontributed, rfl⟩, rfl⟩
  · rintro ⟨_, ⟨contributed, hcontributed, rfl⟩, rfl⟩
    exact ⟨contributed, hcontributed, rfl⟩

/-- An addon that always contributes adds the same containers to every targeted group. -/
theorem contribution_eq_ok {ctx : Context} {addon : Configured Addon} {f : JobGroup → List Container}
    (h : ∀ group, addon.behaviour.containers group ctx = .ok (f group)) (groups : List JobGroup)
    (index : Nat) :
    contribution ctx groups (addon, index) =
      .ok ((groups.filter fun g => addon.behaviour.scope.targetsGroup g.name).flatMap
        fun group => (f group).map (adoptFromAddon index group)) := by
  simp only [contribution, bind_eq_ok_iff, pure_eq_ok_iff, mapM_eq_ok_iff]
  refine ⟨_, ?_, rfl⟩
  rw [List.forall₂_map_right_iff, List.forall₂_same]
  intro group _
  rw [addonContainers, h]
  rfl

/-- Where a contributed container comes from. -/
theorem exists_of_mem_contribution {ctx : Context} {groups : List JobGroup}
    {entry : Configured Addon × Nat} {new : List Container}
    (h : contribution ctx groups entry = .ok new) {c : Container} (hc : c ∈ new) :
    ∃ group ∈ groups, entry.1.behaviour.scope.targetsGroup group.name = true ∧
      ∃ containers, entry.1.behaviour.containers group ctx = .ok containers ∧
        ∃ c' ∈ containers, c = adoptFromAddon entry.2 group c' := by
  simp only [contribution, bind_eq_ok_iff, mapM_eq_ok_iff, pure_eq_ok_iff] at h
  obtain ⟨contributed, hcontributed, rfl⟩ := h
  obtain ⟨cs, hcs, hc⟩ := List.mem_flatten.mp hc
  obtain ⟨group, hgroup, hadded⟩ := exists_of_mem_right hcontributed hcs
  simp only [addonContainers, bind_eq_ok_iff, pure_eq_ok_iff] at hadded
  obtain ⟨containers, hcontainers, rfl⟩ := hadded
  obtain ⟨c', hc', rfl⟩ := List.mem_map.mp hc
  obtain ⟨hmem, htargeted⟩ := List.mem_filter.mp hgroup
  exact ⟨group, hmem, htargeted, containers, hcontainers, c', hc', rfl⟩

theorem assemble_eq_ok_iff {ctx : Context} {resolution : Resolution} {b : Assembly} :
    assemble ctx resolution = .ok b ↔
      ∃ ofMetrics, resolution.metrics.zipIdx.foldlM (addMetric ctx) {} = .ok ofMetrics ∧
        resolution.addons.zipIdx.foldlM (addAddon ctx) { ofMetrics with
          containers := ofMetrics.containers ++ applicationContainers ctx resolution.metrics } =
            .ok b := by
  simp only [assemble, bind_eq_ok_iff]

/-- Addons start with what metrics and the application have contributed. -/
theorem assemble_eq_ok_iff_start {ctx : Context} {metrics : List (Configured Metric)}
    {addons : List (Configured Addon)} {b : Assembly} :
    assemble ctx { metrics, addons } = .ok b ↔
      ∃ start, assemble ctx { metrics, addons := [] } = .ok start ∧
        addons.zipIdx.foldlM (addAddon ctx) start = .ok b := by
  simp only [assemble_eq_ok_iff, List.zipIdx_nil, List.foldlM_nil, pure_eq_ok_iff]
  constructor
  · rintro ⟨ofMetrics, hmetrics, hb⟩
    exact ⟨_, ⟨ofMetrics, hmetrics, rfl⟩, hb⟩
  · rintro ⟨_, ⟨ofMetrics, hmetrics, rfl⟩, hb⟩
    exact ⟨ofMetrics, hmetrics, hb⟩

/-! ## Customizations -/

theorem offence?_eq_none_iff {groups : List JobGroup} {identifier : String} {index : Nat}
    {before after : Container} :
    offence? groups identifier index (before, after) = none ↔
      (identity after = identity before ∨ before.contributor = some (.addon index)) ∧
        hasGroup groups after.jobGroup = true := by
  simp only [offence?]
  by_cases hforeign :
      identity after ≠ identity before ∧ before.contributor ≠ some (.addon index)
  · rw [if_pos hforeign]
    simp [hforeign.1, hforeign.2]
  · rw [if_neg hforeign]
    rw [not_and_or, not_not, not_not] at hforeign
    simp [hforeign]

theorem customizeBy_eq_ok_iff {a b : Assembly} {addon : Configured Addon} {index : Nat} :
    customizeBy a (addon, index) = .ok b ↔
      ∃ revised, addon.behaviour.customize a.groups a.containers = .ok revised ∧
        (∀ step ∈ a.containers.zip revised.1,
          offence? a.groups addon.identifier index step = none) ∧
        b = { a with containers := revised.1 } := by
  simp only [customizeBy, bind_eq_ok_iff, ↓check_bind_eq_ok_iff, pure_eq_ok_iff,
    List.findSome?_eq_none_iff]
  exact exists_congr fun revised => and_congr_right fun _ => and_congr_right fun _ => eq_comm

end Assembly
end MeasuredJob
