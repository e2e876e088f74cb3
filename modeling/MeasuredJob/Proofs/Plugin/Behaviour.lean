import MeasuredJob.Assembly.Contribute
import MeasuredJob.Proofs.Plugin.Declared

/-!
# Behaviour of the built-in plugins

A declared plugin of the library behaves in one of few ways, by the options that it reads.  What
holds of its contributions is proved here for each of these ways: built-in metrics leave their
scripts without names and run in job groups whose names have no dash, and built-in addons name each
script after its container and its job group.
-/

namespace MeasuredJob

open Success

/-! ## Addons -/

/-- What an addon of the library does when it is declared with the options of a bag. -/
inductive Builtin.AddonOf (bag : OptionBag) : Addon → Prop where
  | companion : AddonOf bag (Companion.addon (Companion.readOptions bag))
  | profiler : AddonOf bag (Profiler.addon (Profiler.readOptions bag))
  | mount (kind : Mount.Kind) : AddonOf bag (Mount.addon kind (Mount.readOptions kind bag))

theorem Builtin.DeclaresAddon.addonOf {use : PluginUse} {addon : Addon}
    (h : DeclaresAddon use addon) : AddonOf use.bag addon := by
  cases h with
  | companion => exact .companion
  | profiler => exact .profiler
  | mount => exact .mount _

theorem Builtin.addonOf_of_useAddon {use : PluginUse} {addon : Configured Addon}
    (h : Builtin.registry.useAddon use = .ok addon) : AddonOf use.bag addon.behaviour :=
  (declaresAddon_of_useAddon h).addonOf

namespace Builtin.AddonOf

variable {bag : OptionBag} {addon : Addon}

/-- An addon of the library always contributes, and names scripts after container and group. -/
theorem containers_eq (h : AddonOf bag addon) (group : JobGroup) (ctx : Context) :
    ∃ containers, addon.containers group ctx = .ok containers ∧
      ∀ c ∈ containers, c.script.name = some (c.name ++ "-" ++ group.name) := by
  cases h with
  | companion => exact ⟨_, rfl, fun c hc => by rw [List.mem_singleton.mp hc]; rfl⟩
  | profiler => exact ⟨_, rfl, fun c hc => by rw [List.mem_singleton.mp hc]; rfl⟩
  | mount kind => exact ⟨[], rfl, fun c hc => absurd hc List.not_mem_nil⟩

theorem isScoped (h : AddonOf bag addon) : addon.IsScoped := by
  cases h <;> exact fun _ _ => rfl

/-- The job group that an addon of the library targets is the one that its options name. -/
theorem target_eq (h : AddonOf bag addon) :
    addon.scope.target = "" ∨ addon.scope.target = bag.textOr "target" "" := by
  cases h with
  | companion => exact .inr rfl
  | profiler => exact .inr rfl
  | mount kind => exact .inl rfl

end Builtin.AddonOf

/-! ## Metrics -/

/-- What a metric of the library does when it is declared. -/
inductive Builtin.MetricOf : Metric → Prop where
  | workload (workload : Workload) (options : Workload.Options) :
      MetricOf (workload.metric options)
  | sampler (options : Sampler.Options) : MetricOf (Sampler.metric options)

theorem Builtin.DeclaresMetric.metricOf {use : PluginUse} {metric : Metric}
    (h : DeclaresMetric use metric) : MetricOf metric := by
  cases h with
  | workload => exact .workload _ _
  | sampler _ options => exact .sampler options

theorem Builtin.metricOf_of_useMetric {use : PluginUse} {metric : Configured Metric}
    (h : Builtin.registry.useMetric use = .ok metric) : MetricOf metric.behaviour :=
  (declaresMetric_of_useMetric h).metricOf

namespace Builtin.MetricOf

variable {metric : Metric}

/-- The job groups of the library. -/
theorem names_metricGroups (h : MetricOf metric) (ctx : Context) :
    (Assembly.metricGroups ctx metric).map JobGroup.name =
        [JobGroup.launcherName, JobGroup.workerName] ∨
      (Assembly.metricGroups ctx metric).map JobGroup.name = [JobGroup.defaultName] := by
  cases h with
  | workload workload options => exact .inl rfl
  | sampler options => exact .inr rfl

/-- Where a metric of the library has the application that it asks for, it contributes: scripts
without names, in the job groups of the metric. -/
theorem containers_eq (h : MetricOf metric) {ctx : Context}
    (happlication : metric.requiresApplication = true → ctx.completeApplication?.isSome = true) :
    ∃ containers, metric.containers ctx = .ok containers ∧
      (∀ c ∈ containers, c.script.name = none) ∧
      ∀ index, ∀ c ∈ containers.map (Assembly.adoptFromMetric metric.kind index),
        c.jobGroup ∈ (Assembly.metricGroups ctx metric).map JobGroup.name := by
  cases h with
  | workload workload options =>
    refine ⟨_, rfl, ?_, ?_⟩
    · intro c hc
      simp only [Workload.containers, List.mem_cons, List.not_mem_nil, or_false] at hc
      rcases hc with rfl | rfl <;> rfl
    · intro index c hc
      simp only [Workload.containers, List.map_cons, List.map_nil, List.mem_cons,
        List.not_mem_nil, or_false] at hc
      rcases hc with rfl | rfl
      · exact List.mem_cons_self
      · exact List.mem_cons_of_mem _ List.mem_cons_self
  | sampler options =>
    obtain ⟨app, happ⟩ := Option.isSome_iff_exists.mp (happlication rfl)
    have hdeclared : ctx.application = some app :=
      (Option.filter_eq_some_iff.mp happ).1
    have hcontainers : (Sampler.metric options).containers ctx = Sampler.containers options ctx := rfl
    rw [hcontainers, Sampler.containers, hdeclared]
    refine ⟨_, rfl, ?_, ?_⟩
    · intro c hc
      rw [List.mem_singleton.mp hc]
      rfl
    · intro index c hc
      rw [List.mem_singleton.mp hc]
      exact List.mem_singleton_self _

end Builtin.MetricOf

/-! ## Declared plugins -/

section

variable {decl : Declaration} {resolution : Resolution}

theorem Builtin.exists_metricOf_of_resolveAll
    (h : Builtin.registry.resolveAll decl = .ok resolution) :
    ∀ metric ∈ resolution.metrics, ∃ use ∈ decl.metrics,
      Builtin.registry.useMetric use = .ok metric ∧ Builtin.MetricOf metric.behaviour := by
  intro metric hmetric
  obtain ⟨use, huse, hconfigured⟩ :=
    exists_of_mem_right (Registry.resolveAll_eq_ok_iff.mp h).1 hmetric
  exact ⟨use, huse, hconfigured, Builtin.metricOf_of_useMetric hconfigured⟩

theorem Builtin.exists_addonOf_of_resolveAll
    (h : Builtin.registry.resolveAll decl = .ok resolution) :
    ∀ addon ∈ resolution.addons, ∃ use ∈ decl.addons,
      Builtin.registry.useAddon use = .ok addon ∧ Builtin.AddonOf use.bag addon.behaviour := by
  intro addon haddon
  obtain ⟨use, huse, hconfigured⟩ :=
    exists_of_mem_right (Registry.resolveAll_eq_ok_iff.mp h).2 haddon
  exact ⟨use, huse, hconfigured, Builtin.addonOf_of_useAddon hconfigured⟩

end

end MeasuredJob
