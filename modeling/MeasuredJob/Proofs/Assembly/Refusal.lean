import MeasuredJob.Proofs.Assembly.Contributors
import MeasuredJob.Proofs.Assembly.Groups
import MeasuredJob.Proofs.Failure
import MeasuredJob.Proofs.Plugin.Behaviour

/-!
# Refused contributions

The first phase fails in a step: that of a metric, or that of an addon which finds what the metrics,
the application and the addons before it have contributed.  With the plugins of the library there
are two ways in which a step fails: a monitor lacks its application, or an addon targets a job group
that no metric contributes.  Everything else that a step checks is met by what these plugins
contribute.
-/

namespace MeasuredJob
namespace Assembly

open Success Failure

variable {ctx : Context} {a : Assembly} {e : Error}

/-! ## Steps -/

/-- A metric fails for want of an application, by itself, or because a container of it has no job
group to go to. -/
theorem addMetric_eq_error_iff {metric : Configured Metric} {index : ℕ} :
    addMetric ctx a (metric, index) = .error e ↔
      (metric.behaviour.requiresApplication = true ∧ ctx.completeApplication? = none) ∧
          .missingApplication metric.identifier = e ∨
        (metric.behaviour.requiresApplication = true → ctx.completeApplication?.isSome = true) ∧
          (metric.behaviour.containers ctx = .error e ∨
            ∃ containers, metric.behaviour.containers ctx = .ok containers ∧
              misplaced? (mergeGroups a.groups (metricGroups ctx metric.behaviour))
                metric.identifier
                (containers.map (adoptFromMetric metric.behaviour.kind index)) = some e) := by
  simp only [addMetric, guard_eq_error_iff, bind_eq_error_iff, ↓check_bind_eq_error_iff,
    pure_ne_error, and_false, or_false]
  cases metric.behaviour.requiresApplication <;> cases ctx.completeApplication? <;> simp

/-- An addon fails because its target is not there, or by itself in a job group that it targets. -/
theorem addAddon_eq_error_cases {addon : Configured Addon} {index : ℕ}
    (h : addAddon ctx a (addon, index) = .error e) :
    (addon.behaviour.scope.target ≠ "" ∧
        addon.behaviour.scope.target ∉ a.groups.map JobGroup.name ∧
        e = .unknownJobGroup addon.identifier addon.behaviour.scope.target) ∨
      ∃ group ∈ a.groups, addon.behaviour.scope.targetsGroup group.name = true ∧
        addon.behaviour.containers group ctx = .error e := by
  simp only [addAddon, guard_eq_error_iff] at h
  rcases h with ⟨⟨htarget, hnone⟩, rfl⟩ | ⟨-, h⟩
  · refine .inl ⟨htarget, fun hmem => ?_, rfl⟩
    rw [hasGroup_iff.mpr hmem] at hnone
    cases hnone
  · simp only [bind_eq_error_iff, pure_ne_error, and_false, exists_false, or_false] at h
    obtain ⟨group, hgroup, hfails⟩ := exists_of_mapM_eq_error h
    simp only [addonContainers, bind_eq_error_iff, pure_ne_error, and_false, exists_false,
      or_false] at hfails
    obtain ⟨hmem, htargeted⟩ := List.mem_filter.mp hgroup
    exact .inr ⟨group, hmem, htargeted, hfails⟩

/-- The first phase fails in the step of one of the plugins. -/
theorem assemble_eq_error_cases {resolution : Resolution} (h : assemble ctx resolution = .error e) :
    (∃ (index : ℕ) (metric : Configured Metric) (before : Assembly),
        resolution.metrics[index]? = some metric ∧
          addMetric ctx before (metric, index) = .error e) ∨
      ∃ (index : ℕ) (addon : Configured Addon) (before : Assembly),
        resolution.addons[index]? = some addon ∧
          assemble ctx (resolution.upTo index) = .ok before ∧
          addAddon ctx before (addon, index) = .error e := by
  rw [assemble, bind_eq_error_iff] at h
  rcases h with h | ⟨ofMetrics, hofMetrics, h⟩
  · obtain ⟨index, metric, before, hmetric, -, hstep⟩ := exists_of_foldlM_zipIdx_eq_error h
    exact .inl ⟨index, metric, before, hmetric, hstep⟩
  · obtain ⟨index, addon, before, haddon, hbefore, hstep⟩ := exists_of_foldlM_zipIdx_eq_error h
    exact .inr ⟨index, addon, before, haddon,
      assemble_eq_ok_iff.mpr ⟨ofMetrics, hofMetrics, hbefore⟩, hstep⟩

/-! ## Steps of the library -/

theorem addMetric_eq_error {metric : Configured Metric} {index : ℕ}
    (hof : Builtin.MetricOf metric.behaviour) (h : addMetric ctx a (metric, index) = .error e) :
    e = .missingApplication metric.identifier := by
  rcases addMetric_eq_error_iff.mp h with ⟨-, rfl⟩ | ⟨happlication, h⟩
  · rfl
  · obtain ⟨containers, hcontainers, -, hplaced⟩ := hof.containers_eq happlication
    have hmisplaced : misplaced? (mergeGroups a.groups (metricGroups ctx metric.behaviour))
        metric.identifier (containers.map (adoptFromMetric metric.behaviour.kind index)) = none := by
      refine misplaced?_eq_none_iff.mpr fun c hc => ?_
      exact hasGroup_iff.mpr (mem_names_mergeGroups.mpr (.inr (hplaced index c hc)))
    simp [hcontainers, hmisplaced] at h

theorem addAddon_eq_error {bag : OptionBag} {addon : Configured Addon} {index : ℕ}
    (hof : Builtin.AddonOf bag addon.behaviour) (h : addAddon ctx a (addon, index) = .error e) :
    addon.behaviour.scope.target ≠ "" ∧
      addon.behaviour.scope.target ∉ a.groups.map JobGroup.name ∧
      e = .unknownJobGroup addon.identifier addon.behaviour.scope.target := by
  refine (addAddon_eq_error_cases h).resolve_right ?_
  rintro ⟨group, -, -, hfails⟩
  obtain ⟨containers, hcontainers, -⟩ := hof.containers_eq group ctx
  rw [hcontainers] at hfails
  cases hfails

/-- The first phase fails for one of the two reasons. -/
theorem assemble_eq_error {resolution : Resolution}
    (hmetrics : ∀ metric ∈ resolution.metrics, Builtin.MetricOf metric.behaviour)
    (haddons : ∀ addon ∈ resolution.addons, ∃ bag, Builtin.AddonOf bag addon.behaviour)
    (h : assemble ctx resolution = .error e) :
    (∃ metric ∈ resolution.metrics, e = .missingApplication metric.identifier) ∨
      ∃ addon ∈ resolution.addons, addon.behaviour.scope.target ≠ "" ∧
        (∀ metric ∈ resolution.metrics,
          addon.behaviour.scope.target ∉ (metricGroups ctx metric.behaviour).map JobGroup.name) ∧
        e = .unknownJobGroup addon.identifier addon.behaviour.scope.target := by
  rcases assemble_eq_error_cases h with
    ⟨index, metric, before, hmetric, hstep⟩ | ⟨index, addon, before, haddon, hbefore, hstep⟩
  · have hmem := List.mem_of_getElem? hmetric
    exact .inl ⟨metric, hmem, addMetric_eq_error (hmetrics metric hmem) hstep⟩
  · have hmem := List.mem_of_getElem? haddon
    obtain ⟨bag, hof⟩ := haddons addon hmem
    obtain ⟨htarget, hnone, rfl⟩ := addAddon_eq_error hof hstep
    refine .inr ⟨addon, hmem, htarget, fun metric hmetric hname => hnone ?_, rfl⟩
    exact (mem_names_assemble hbefore).mpr ⟨metric, hmetric, hname⟩

end Assembly
end MeasuredJob
