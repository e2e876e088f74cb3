import MeasuredJob.Proofs.Assembly.Contributors
import MeasuredJob.Proofs.Plugin.Accepted

/-!
# Where containers come from

With the plugins of the library a container of the first phase is one of five: one of the two of a
workload, that of the sampler, the application, a companion, or the one that copies a view.  Each
comes from one use of the declaration, and the plugin of that use has accepted its options.
-/

namespace MeasuredJob

open Assembly Success

/-- A container that a declaration leads to, with the use that it comes from. -/
inductive Declaration.Contributes (decl : Declaration) (ctx : Context) : Container → Prop where
  | workload {index : ℕ} {use : PluginUse} (huse : decl.metrics[index]? = some use) {w : Workload}
      (hworkload : w ∈ Workload.all) (hname : use.name = w.descriptor.identifier)
      (hvalid : w.validate (w.readOptions use.bag) = none) {c : Container}
      (hc : c ∈ w.containers (w.readOptions use.bag) ctx) :
      Contributes decl ctx (adoptFromMetric .workload index c)
  | sampler {index : ℕ} {use : PluginUse} (huse : decl.metrics[index]? = some use)
      (hname : use.name = Sampler.identifier) {options : Sampler.Options}
      (hconfigure : Sampler.configure use.bag {} = (options, none))
      (hvalid : Sampler.validate options = none) {containers : List Container}
      (hcontainers : Sampler.containers options ctx = .ok containers) {c : Container}
      (hc : c ∈ containers) :
      Contributes decl ctx (adoptFromMetric .monitor index c)
  | application {app : Application} (happ : ctx.completeApplication? = some app) :
      Contributes decl ctx (applicationContainer app)
  | companion {index : ℕ} {use : PluginUse} (huse : decl.addons[index]? = some use)
      (hname : use.name = Companion.identifier)
      (hvalid : Companion.validate (Companion.readOptions use.bag) = none) (group : JobGroup) :
      Contributes decl ctx
        (adoptFromAddon index group (Companion.container (Companion.readOptions use.bag) group))
  | view {index : ℕ} {use : PluginUse} (huse : decl.addons[index]? = some use)
      (hname : use.name = Profiler.identifier)
      (hvalid : Profiler.validate (Profiler.readOptions use.bag) = none) (group : JobGroup) :
      Contributes decl ctx (adoptFromAddon index group
        (Profiler.viewContainer (Profiler.readOptions use.bag) group ctx))

section

variable {decl : Declaration} {ctx : Context}

theorem Builtin.AcceptsMetric.contributes {index : ℕ} {use : PluginUse} {metric : Metric}
    (h : AcceptsMetric use metric) (huse : decl.metrics[index]? = some use)
    {containers : List Container} (hcontainers : metric.containers ctx = .ok containers)
    {c : Container} (hc : c ∈ containers) :
    decl.Contributes ctx (adoptFromMetric metric.kind index c) := by
  cases h with
  | workload hworkload hname hvalid =>
    cases hcontainers
    exact .workload huse hworkload hname hvalid hc
  | sampler hname hconfigure hvalid =>
    exact .sampler huse hname hconfigure hvalid hcontainers hc

theorem Builtin.AcceptsAddon.contributes {index : ℕ} {use : PluginUse} {addon : Addon}
    (h : AcceptsAddon use addon) (huse : decl.addons[index]? = some use) {group : JobGroup}
    {containers : List Container} (hcontainers : addon.containers group ctx = .ok containers)
    {c : Container} (hc : c ∈ containers) :
    decl.Contributes ctx (adoptFromAddon index group c) := by
  cases h with
  | companion hname hvalid =>
    cases hcontainers
    rw [List.mem_singleton.mp hc]
    exact .companion huse hname hvalid group
  | profiler hname hvalid =>
    cases hcontainers
    rw [List.mem_singleton.mp hc]
    exact .view huse hname hvalid group
  | mount hname hvalid =>
    cases hcontainers
    exact absurd hc List.not_mem_nil

/-- Every container of the first phase is one of the five. -/
theorem Assembly.contributes_of_assemble {resolution : Resolution} {a : Assembly}
    (hresolved : Builtin.registry.resolveAll decl = .ok resolution)
    (h : assemble ctx resolution = .ok a) : ∀ c ∈ a.containers, decl.Contributes ctx c := by
  obtain ⟨hmetrics, haddons⟩ := Registry.resolveAll_eq_ok_iff.mp hresolved
  intro c hc
  cases origin_assemble h c hc with
  | metric hmetric _ hcontainers hown =>
    obtain ⟨use, huse, hconfigured⟩ := exists_getElem?_of_forall₂ hmetrics.flip hmetric
    exact (Builtin.acceptsMetric_of_useMetric hconfigured).contributes huse hcontainers hown
  | application happ => exact .application happ
  | addon haddon _ hcontainers hown =>
    obtain ⟨use, huse, hconfigured⟩ := exists_getElem?_of_forall₂ haddons.flip haddon
    exact (Builtin.acceptsAddon_of_useAddon hconfigured).contributes huse hcontainers hown

end

/-! ## Fields that plugins fill in -/

/-- A workload has two containers, which differ in their names and job groups only as far as images,
directories and secrets are concerned. -/
theorem Workload.fields_of_mem_containers {w : Workload} {options : Options} {ctx : Context}
    {c : Container} (hc : c ∈ w.containers options ctx) :
    (c.name = Container.applicationName ∨ c.name = workerContainer) ∧ c.image = options.image ∧
      c.workingDir = nonEmpty? options.workdir ∧
      c.pullSecret = ctx.application.bind Application.pullSecret := by
  simp only [containers, List.mem_cons, List.not_mem_nil, or_false] at hc
  rcases hc with rfl | rfl
  · exact ⟨.inl rfl, rfl, rfl, rfl⟩
  · exact ⟨.inr rfl, rfl, rfl, rfl⟩

theorem Sampler.fields_of_mem_containers {options : Options} {ctx : Context}
    {cs : List Container} (hcontainers : containers options ctx = .ok cs) {c : Container}
    (hc : c ∈ cs) :
    c.name = identifier ∧ c.image = options.image ∧ c.workingDir = none ∧ c.pullSecret = none := by
  rw [containers] at hcontainers
  split at hcontainers
  · cases hcontainers
  · cases hcontainers
    rw [List.mem_singleton.mp hc]
    exact ⟨rfl, rfl, rfl, rfl⟩

/-- The names of containers that no option can change. -/
def Container.fixedNames : List String :=
  [applicationName, Workload.workerContainer, Sampler.identifier, Profiler.viewName]

/-- A companion has a name of its own choice; all other names are fixed. -/
theorem Declaration.Contributes.name_mem_fixedNames_or_companion {decl : Declaration}
    {ctx : Context} {c : Container} (h : decl.Contributes ctx c) :
    c.name ∈ Container.fixedNames ∨ ∃ use ∈ decl.addons, use.name = Companion.identifier ∧
      Companion.validate (Companion.readOptions use.bag) = none ∧
      c.name = use.bag.textOr "name" Container.applicationName := by
  cases h with
  | @workload index use huse w hworkload hname hvalid own hown =>
    left
    show own.name ∈ Container.fixedNames
    obtain ⟨hown | hown, -⟩ := Workload.fields_of_mem_containers hown
    · rw [hown]
      decide
    · rw [hown]
      decide
  | @sampler index use huse hname options hconfigure hvalid containers hcontainers own hown =>
    left
    show own.name ∈ Container.fixedNames
    rw [(Sampler.fields_of_mem_containers hcontainers hown).1]
    decide
  | application =>
    left
    show Container.applicationName ∈ Container.fixedNames
    decide
  | companion huse hname hvalid group =>
    exact .inr ⟨_, List.mem_of_getElem? huse, hname, hvalid, rfl⟩
  | view =>
    left
    show Profiler.viewName ∈ Container.fixedNames
    decide

end MeasuredJob
