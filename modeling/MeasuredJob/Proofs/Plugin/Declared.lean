import MeasuredJob.Proofs.Plugin.Registered

/-!
# Declared plugins

A declaration asks for plugins by name.  A use that the library can resolve has one of the names of
the library, and the plugin of that name has read its options from the bag of the use and accepted
them.  Most facts about a declared plugin hold whether or not its options have been checked.
-/

namespace MeasuredJob

/-- The workloads that come with the library. -/
def Workload.all : List Workload := [pennant, lammps]

def Mount.Kind.all : List Kind :=
  [.configMap, .secret, .persistentVolumeClaim, .hostPath, .emptyDir]

namespace Builtin

/-- What a metric of the library does when it is declared. -/
inductive DeclaresMetric (use : PluginUse) : Metric → Prop where
  | workload {w : Workload} (hworkload : w ∈ Workload.all)
      (hname : use.name = w.descriptor.identifier) :
      DeclaresMetric use (w.metric (w.readOptions use.bag))
  | sampler (hname : use.name = Sampler.identifier) (options : Sampler.Options) :
      DeclaresMetric use (Sampler.metric options)

/-- What an addon of the library does when it is declared. -/
inductive DeclaresAddon (use : PluginUse) : Addon → Prop where
  | companion (hname : use.name = Companion.identifier) :
      DeclaresAddon use (Companion.addon (Companion.readOptions use.bag))
  | profiler (hname : use.name = Profiler.identifier) :
      DeclaresAddon use (Profiler.addon (Profiler.readOptions use.bag))
  | mount {kind : Mount.Kind} (hname : use.name = kind.identifier) :
      DeclaresAddon use (Mount.addon kind (Mount.readOptions kind use.bag))

/-- What a metric of the library does when it has accepted its options. -/
inductive AcceptsMetric (use : PluginUse) : Metric → Prop where
  | workload {w : Workload} (hworkload : w ∈ Workload.all)
      (hname : use.name = w.descriptor.identifier)
      (hvalid : w.validate (w.readOptions use.bag) = none) :
      AcceptsMetric use (w.metric (w.readOptions use.bag))
  | sampler (hname : use.name = Sampler.identifier) {options : Sampler.Options}
      (hconfigure : Sampler.configure use.bag {} = (options, none))
      (hvalid : Sampler.validate options = none) :
      AcceptsMetric use (Sampler.metric options)

/-- What an addon of the library does when it has accepted its options. -/
inductive AcceptsAddon (use : PluginUse) : Addon → Prop where
  | companion (hname : use.name = Companion.identifier)
      (hvalid : Companion.validate (Companion.readOptions use.bag) = none) :
      AcceptsAddon use (Companion.addon (Companion.readOptions use.bag))
  | profiler (hname : use.name = Profiler.identifier)
      (hvalid : Profiler.validate (Profiler.readOptions use.bag) = none) :
      AcceptsAddon use (Profiler.addon (Profiler.readOptions use.bag))
  | mount {kind : Mount.Kind} (hname : use.name = kind.identifier)
      (hvalid : Mount.validate kind (Mount.readOptions kind use.bag) = none) :
      AcceptsAddon use (Mount.addon kind (Mount.readOptions kind use.bag))

theorem AcceptsMetric.declares {use : PluginUse} {metric : Metric}
    (h : AcceptsMetric use metric) : DeclaresMetric use metric := by
  cases h with
  | workload hworkload hname => exact .workload hworkload hname
  | sampler hname => exact .sampler hname _

theorem AcceptsAddon.declares {use : PluginUse} {addon : Addon} (h : AcceptsAddon use addon) :
    DeclaresAddon use addon := by
  cases h with
  | companion hname => exact .companion hname
  | profiler hname => exact .profiler hname
  | mount hname => exact .mount hname

/-- A metric of the library, under whatever registry it is found. -/
theorem acceptsMetric_of_mem {plugin : Plugin Metric} (hmem : .metric plugin ∈ plugins)
    {use : PluginUse} (hname : use.name = plugin.descriptor.identifier)
    {metric : Configured Metric} (huse : plugin.use use.bag = .ok metric) :
    AcceptsMetric use metric.behaviour := by
  obtain ⟨state, hconfigure, hvalid, rfl⟩ := Plugin.use_eq_ok_iff.mp huse
  simp only [plugins, List.mem_cons, reduceCtorEq, AnyPlugin.metric.injEq, or_false,
    List.not_mem_nil] at hmem
  rcases hmem with rfl | rfl | rfl
  · cases hconfigure
    exact .workload List.mem_cons_self hname hvalid
  · cases hconfigure
    exact .workload (List.mem_cons_of_mem _ List.mem_cons_self) hname hvalid
  · exact .sampler hname hconfigure hvalid

/-- An addon of the library, under whatever registry it is found. -/
theorem acceptsAddon_of_mem {plugin : Plugin Addon} (hmem : .addon plugin ∈ plugins)
    {use : PluginUse} (hname : use.name = plugin.descriptor.identifier)
    {addon : Configured Addon} (huse : plugin.use use.bag = .ok addon) :
    AcceptsAddon use addon.behaviour := by
  obtain ⟨state, hconfigure, hvalid, rfl⟩ := Plugin.use_eq_ok_iff.mp huse
  simp only [plugins, List.mem_cons, reduceCtorEq, AnyPlugin.addon.injEq, false_or,
    List.not_mem_nil, or_false] at hmem
  rcases hmem with rfl | rfl | rfl | rfl | rfl | rfl | rfl
  · cases hconfigure
    exact .companion hname hvalid
  · cases hconfigure
    dsimp only [Profiler.plugin] at hvalid
    exact .profiler hname hvalid
  all_goals
    cases hconfigure
    exact .mount hname hvalid

theorem acceptsMetric_of_useMetric {use : PluginUse} {metric : Configured Metric}
    (h : registry.useMetric use = .ok metric) : AcceptsMetric use metric.behaviour := by
  obtain ⟨plugin, hlookup, huse⟩ := Registry.useMetric_eq_ok_iff.mp h
  exact acceptsMetric_of_mem (mem_of_lookup hlookup) (Registry.identifier_of_lookup hlookup).symm
    huse

theorem acceptsAddon_of_useAddon {use : PluginUse} {addon : Configured Addon}
    (h : registry.useAddon use = .ok addon) : AcceptsAddon use addon.behaviour := by
  obtain ⟨plugin, hlookup, huse⟩ := Registry.useAddon_eq_ok_iff.mp h
  exact acceptsAddon_of_mem (mem_of_lookup hlookup) (Registry.identifier_of_lookup hlookup).symm
    huse

theorem declaresMetric_of_useMetric {use : PluginUse} {metric : Configured Metric}
    (h : registry.useMetric use = .ok metric) : DeclaresMetric use metric.behaviour :=
  (acceptsMetric_of_useMetric h).declares

theorem declaresAddon_of_useAddon {use : PluginUse} {addon : Configured Addon}
    (h : registry.useAddon use = .ok addon) : DeclaresAddon use addon.behaviour :=
  (acceptsAddon_of_useAddon h).declares

section

variable {decl : Declaration} {resolution : Resolution}

theorem forall₂_declaresMetric (h : registry.resolveAll decl = .ok resolution) :
    List.Forall₂ (fun use metric => DeclaresMetric use metric.behaviour) decl.metrics
      resolution.metrics :=
  (Registry.resolveAll_eq_ok_iff.mp h).1.imp fun _ _ huse => declaresMetric_of_useMetric huse

theorem forall₂_declaresAddon (h : registry.resolveAll decl = .ok resolution) :
    List.Forall₂ (fun use addon => DeclaresAddon use addon.behaviour) decl.addons
      resolution.addons :=
  (Registry.resolveAll_eq_ok_iff.mp h).2.imp fun _ _ huse => declaresAddon_of_useAddon huse

end

end Builtin
end MeasuredJob
