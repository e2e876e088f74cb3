import MeasuredJob.Proofs.Assembly.Roster
import MeasuredJob.Proofs.Composition.Customized
import MeasuredJob.Proofs.Composition.Readiness

/-!
# The containers of a composition

With the plugins of the library a composition loses nothing and makes nothing up: its containers are
the roster of the declaration, its job groups those of the metrics, and its volumes those of the
addons.  Since containers and volumes are told apart by name, some plugins can be declared only
once: workloads all have the same job groups, all samplers share theirs, and the volume of the
profiler has a fixed name.
-/

namespace MeasuredJob

open Success

/-! ## What the first phase leaves -/

/-- The job groups and names of the containers of metrics. -/
def PluginUse.allOwnKeys : List (String × String) := [
  (JobGroup.launcherName, Container.applicationName),
  (JobGroup.workerName, Workload.workerContainer),
  (JobGroup.defaultName, Sampler.identifier)]

theorem PluginUse.ownKeys_subset (use : PluginUse) : use.ownKeys ⊆ allOwnKeys := by
  unfold ownKeys
  split
  · decide
  · split
    · decide
    · exact List.nil_subset _

theorem PluginUse.names_ownGroups (use : PluginUse) (ctx : Context) :
    (use.ownGroups ctx).map JobGroup.name = use.ownKeys.map Prod.fst := by
  unfold ownGroups ownKeys
  split
  · rfl
  · split <;> rfl

theorem PluginUse.eq_of_mem_allOwnKeys :
    ∀ key ∈ allOwnKeys, ∀ key' ∈ allOwnKeys, key.1 = key'.1 → key = key' := by
  decide

theorem Declaration.keys_roster (decl : Declaration) (groups : List JobGroup) :
    (decl.roster groups).map Prod.fst =
      decl.metrics.flatMap PluginUse.ownKeys ++
      (if decl.metrics.any PluginUse.isSampler then
        [(JobGroup.defaultName, Container.applicationName)]
      else []) ++
      decl.addons.flatMap fun use => use.supportKeys groups := by
  have hown := flatMap_zipIdx decl.metrics PluginUse.ownKeys 0
  have hsupport := flatMap_zipIdx decl.addons (fun use => use.supportKeys groups) 0
  have happlication : (if decl.metrics.any PluginUse.isSampler then
      [((JobGroup.defaultName, Container.applicationName), some Contributor.application)]
      else []).map Prod.fst = if decl.metrics.any PluginUse.isSampler then
        [(JobGroup.defaultName, Container.applicationName)] else [] := by
    split <;> rfl
  rw [roster, List.map_append, List.map_append, List.map_flatMap, List.map_flatMap, happlication]
  simp only [List.map_map, Function.comp_def, List.map_id', hown, hsupport]

namespace Assembly

variable {ctx : Context} {decl : Declaration} {resolution : Resolution} {a : Assembly}

theorem nodup_ownKeys (hresolved : Builtin.registry.resolveAll decl = .ok resolution)
    (h : assemble ctx resolution = .ok a) (hunique : a.checkUnique = .ok ()) :
    (decl.metrics.flatMap PluginUse.ownKeys).Nodup := by
  have hentries := (gains_assemble hresolved h).containers
  have hkeys := (checkUnique_eq_ok_iff.mp hunique).1
  have hfirst : a.containers.map Container.key =
      (a.containers.map Container.entry).map Prod.fst := by
    rw [List.map_map]
    rfl
  rw [hfirst, hentries] at hkeys
  change ((decl.roster a.groups).map Prod.fst).Nodup at hkeys
  rw [Declaration.keys_roster] at hkeys
  have hbeforeAddons := (List.nodup_append.mp hkeys).1
  exact (List.nodup_append.mp hbeforeAddons).1

/-- No two metrics contribute one job group, so none is merged with another. -/
theorem groups_eq_ownGroups (hresolved : Builtin.registry.resolveAll decl = .ok resolution)
    (h : assemble ctx resolution = .ok a) (hunique : a.checkUnique = .ok ()) :
    a.groups = decl.metrics.flatMap fun use => use.ownGroups ctx := by
  obtain ⟨ofMetrics, hmetrics, haddons⟩ := assemble_eq_ok_iff.mp h
  have hdeclares := Builtin.forall₂_declaresMetric hresolved
  have hgroups : (resolution.metrics.flatMap fun metric => metricGroups ctx metric.behaviour) =
      decl.metrics.flatMap fun use => use.ownGroups ctx := by
    rw [List.flatMap_def, List.flatMap_def]
    exact congrArg List.flatten
      (map_eq_map_of_forall₂ hdeclares fun _ _ hof => (hof.metricGroups_eq ctx).symm).symm
  have hmerged : a.groups = mergeGroups [] (decl.metrics.flatMap fun use => use.ownGroups ctx) := by
    rw [groups_addAddons haddons]
    change ofMetrics.groups = _
    rw [groups_addMetrics hmetrics,
      flatMap_zipIdx resolution.metrics (fun metric => metricGroups ctx metric.behaviour), hgroups]
  -- Two metrics with a common job group would have a common container in it.
  have hown := nodup_ownKeys hresolved h hunique
  have hknown : decl.metrics.flatMap PluginUse.ownKeys ⊆ PluginUse.allOwnKeys := by
    intro key hkey
    obtain ⟨use, -, huse⟩ := List.mem_flatMap.mp hkey
    exact use.ownKeys_subset huse
  have hnames : ((decl.metrics.flatMap fun use => use.ownGroups ctx).map JobGroup.name).Nodup := by
    rw [List.map_flatMap]
    simp only [PluginUse.names_ownGroups]
    rw [← List.map_flatMap]
    exact hown.map_on fun key hkey key' hkey' =>
      PluginUse.eq_of_mem_allOwnKeys key (hknown hkey) key' (hknown hkey')
  rw [hmerged, mergeGroups_of_nodup hnames, List.nil_append]

end Assembly

/-! ## The whole composition -/

/-- The composition holds what the uses of the declaration ask for, in order and once each. -/
structure Composition.Tallies (ctx : Context) (decl : Declaration) (c : Composition) : Prop where
  metrics : ∀ use ∈ decl.metrics, use.isWorkload = true ∨ use.isSampler = true
  addons : ∀ use ∈ decl.addons, use.isCompanion = true ∨ use.isProfiler = true ∨
    use.mountKind?.isSome = true
  containers : (c.containers.map fun k => k.spec.entry) = decl.roster c.jobGroups
  jobGroups : c.jobGroups = decl.metrics.flatMap fun use => use.ownGroups ctx
  distinct : (c.jobGroups.map JobGroup.name).Nodup
  occupied : ∀ group ∈ c.jobGroups, ∃ k ∈ c.containers, k.spec.jobGroup = group.name
  volumes : c.volumes = decl.addons.filterMap PluginUse.volume?
  workloads : decl.metrics.countP PluginUse.isWorkload ≤ 1
  samplers : decl.metrics.countP PluginUse.isSampler ≤ 1
  profilers : decl.addons.countP PluginUse.isProfiler ≤ 1

section

variable {settings : Settings} {name : String} {decl : Declaration} {resolution : Resolution}
  {contributed customized : Assembly} {c : Composition}

theorem Stages.volumes_eq {registry : Registry}
    (h : Stages registry settings name decl resolution contributed customized c) :
    c.volumes = contributed.volumes :=
  (Composition.volumes_of_render h.rendered).trans (Assembly.volumes_customize h.revised)

/-- Addons that only wrap change nothing that identifies a container. -/
theorem Stages.entries_eq {registry : Registry} (hwraps : registry.OnlyWraps)
    (h : Stages registry settings name decl resolution contributed customized c) :
    (c.containers.map fun k => k.spec.entry) = contributed.containers.map Container.entry := by
  have hdescribes := hwraps.describes_of_resolveAll h.resolved
  have hspecs := h.specs_eq_map_visitAll hwraps
  have hkept : ∀ container, (visitAll contributed.groups resolution.addons container).entry =
      container.entry := by
    intro container
    obtain ⟨fragments, words, privileged, hvisit⟩ :=
      exists_visitAll_eq hdescribes contributed.groups container
    rw [hvisit]
    rfl
  calc
    (c.containers.map fun k => k.spec.entry) =
        (c.containers.map ComposedContainer.spec).map Container.entry := by
      rw [List.map_map]
      rfl
    _ = contributed.containers.map Container.entry := by
      rw [hspecs, List.map_map]
      exact List.map_congr_left fun container _ => hkept container

theorem Stages.entries_eq_roster
    (h : Stages Builtin.registry settings name decl resolution contributed customized c) :
    (c.containers.map fun k => k.spec.entry) = decl.roster c.jobGroups := by
  have hgains := Assembly.gains_assemble h.resolved h.assembled
  rw [h.entries_eq Registry.onlyWraps_builtin, h.jobGroups_eq, hgains.containers]
  rfl

theorem Stages.volumes_eq_uses
    (h : Stages Builtin.registry settings name decl resolution contributed customized c) :
    c.volumes = decl.addons.filterMap PluginUse.volume? := by
  have hgains := Assembly.gains_assemble h.resolved h.assembled
  rw [h.volumes_eq, hgains.volumes]
  rfl

theorem Stages.jobGroups_eq_uses
    (h : Stages Builtin.registry settings name decl resolution contributed customized c) :
    c.jobGroups = decl.metrics.flatMap fun use => use.ownGroups (decl.context name settings) := by
  rw [h.jobGroups_eq]
  exact Assembly.groups_eq_ownGroups h.resolved h.assembled h.contributedUnique

end

theorem Builtin.DeclaresMetric.isWorkload_or_isSampler {use : PluginUse} {metric : Metric}
    (h : DeclaresMetric use metric) : use.isWorkload = true ∨ use.isSampler = true := by
  cases h with
  | workload hworkload hname => exact .inl (isWorkload_of_mem hworkload hname)
  | sampler hname options => exact .inr (beq_iff_eq.mpr hname)

theorem Builtin.DeclaresAddon.known {use : PluginUse} {addon : Addon}
    (h : DeclaresAddon use addon) :
    use.isCompanion = true ∨ use.isProfiler = true ∨ use.mountKind?.isSome = true := by
  cases h with
  | companion hname => exact .inl (beq_iff_eq.mpr hname)
  | profiler hname => exact .inr (.inl (beq_iff_eq.mpr hname))
  | @mount kind hname =>
    rw [PluginUse.mountKind?, hname]
    cases kind <;> exact .inr (.inr rfl)

theorem PluginUse.mem_ownKeys_of_isWorkload {use : PluginUse} (h : use.isWorkload = true) :
    (JobGroup.launcherName, Container.applicationName) ∈ use.ownKeys := by
  rw [ownKeys, if_pos h]
  exact List.mem_cons_self

theorem PluginUse.mem_ownKeys_of_isSampler {use : PluginUse} (h : use.isSampler = true) :
    (JobGroup.defaultName, Sampler.identifier) ∈ use.ownKeys := by
  have hname : use.name = Sampler.identifier := beq_iff_eq.mp h
  have hother : use.isWorkload = false := by
    rw [isWorkload, hname]
    decide
  rw [ownKeys, hother, h]
  exact List.mem_singleton_self _

theorem PluginUse.mem_volume?_of_isProfiler {use : PluginUse} (h : use.isProfiler = true) :
    Profiler.viewName ∈ use.volume?.toList.map Volume.name := by
  rw [volume?, if_pos h]
  exact List.mem_singleton_self _

theorem Declaration.exists_mem_roster {decl : Declaration} {ctx : Context} {group : JobGroup}
    (hgroup : group ∈ decl.metrics.flatMap fun use => use.ownGroups ctx) (groups : List JobGroup) :
    ∃ entry ∈ decl.roster groups, entry.1.1 = group.name := by
  obtain ⟨use, huse, hown⟩ := List.mem_flatMap.mp hgroup
  have hname : group.name ∈ use.ownKeys.map Prod.fst := by
    rw [← use.names_ownGroups ctx]
    exact List.mem_map_of_mem hown
  obtain ⟨key, hkey, hfirst⟩ := List.mem_map.mp hname
  have hrostered : key ∈ (decl.roster groups).map Prod.fst := by
    rw [decl.keys_roster]
    have hmetrics : key ∈ decl.metrics.flatMap PluginUse.ownKeys :=
      List.mem_flatMap.mpr ⟨use, huse, hkey⟩
    exact List.mem_append_left _ (List.mem_append_left _ hmetrics)
  obtain ⟨entry, hentry, rfl⟩ := List.mem_map.mp hrostered
  exact ⟨entry, hentry, hfirst⟩

/-- A composition with the plugins of the library neither loses nor repeats anything. -/
theorem tallies_of_compose {settings : Settings} {name : String} {decl : Declaration}
    {c : Composition} (h : decl.compose Builtin.registry settings name = .ok c) :
    c.Tallies (decl.context name settings) decl := by
  obtain ⟨resolution, contributed, customized, hstages⟩ := compose_eq_ok_iff.mp h
  have hown := Assembly.nodup_ownKeys hstages.resolved hstages.assembled hstages.contributedUnique
  have hnames : (decl.addons.flatMap fun use => use.volume?.toList.map Volume.name).Nodup := by
    have hunique := (Assembly.checkUnique_eq_ok_iff.mp hstages.contributedUnique).2
    rw [← hstages.volumes_eq, hstages.volumes_eq_uses, List.filterMap_eq_flatMap_toList,
      List.map_flatMap] at hunique
    exact hunique
  refine {
    metrics := fun use huse => ?_
    addons := fun use huse => ?_
    containers := hstages.entries_eq_roster
    jobGroups := hstages.jobGroups_eq_uses
    distinct := hstages.nodup_jobGroups
    occupied := fun group hgroup => ?_
    volumes := hstages.volumes_eq_uses
    workloads := countP_le_one_of_nodup_flatMap hown fun _ _ => PluginUse.mem_ownKeys_of_isWorkload
    samplers := countP_le_one_of_nodup_flatMap hown fun _ _ => PluginUse.mem_ownKeys_of_isSampler
    profilers := countP_le_one_of_nodup_flatMap hnames fun _ _ =>
      PluginUse.mem_volume?_of_isProfiler }
  · obtain ⟨metric, -, hof⟩ :=
      exists_of_mem_left (Builtin.forall₂_declaresMetric hstages.resolved) huse
    exact hof.isWorkload_or_isSampler
  · obtain ⟨addon, -, hof⟩ :=
      exists_of_mem_left (Builtin.forall₂_declaresAddon hstages.resolved) huse
    exact hof.known
  · rw [hstages.jobGroups_eq_uses] at hgroup
    obtain ⟨entry, hentry, hname⟩ := Declaration.exists_mem_roster hgroup c.jobGroups
    rw [← hstages.entries_eq_roster] at hentry
    obtain ⟨k, hk, rfl⟩ := List.mem_map.mp hentry
    exact ⟨k, hk, hname⟩

namespace Sample

/-- A workload beside a monitored application, with a companion, the profiler and a volume. -/
def observed : Declaration := {
  pods := 3
  application := some { image := "i", command := "run" }
  metrics := [{ name := "app-pennant" }, { name := "perf-sysstat" }]
  addons := [
    { name := "application"
      bag := (((target "worker").setText "name" "side").setText "image" "side").setText
        "command" "serve" },
    { name := "perf-hpctoolkit", bag := OptionBag.empty.setText "events" "-e IO" },
    { name := "volume-empty"
      bag := (OptionBag.empty.setText "name" "scratch").setText "path" "/scratch" }] }

end Sample

theorem Sample.exists_compose_observed :
    ∃ c, Sample.observed.compose Builtin.registry {} "set" = .ok c := by
  have hrehearsed : Sample.observed.rehearse Builtin.registry {} "set" (fun _ => true) =
      .ok true := by
    decide +kernel
  obtain ⟨c, h, -⟩ := exists_compose_of_rehearse hrehearsed
  exact ⟨c, h⟩

/-- A workload, a monitored application, a companion, the profiler in all job groups and a volume
are all there. -/
theorem tallies_of_observed :
    ∃ c, Sample.observed.compose Builtin.registry {} "set" = .ok c ∧
      c.Tallies (Sample.observed.context "set" {}) Sample.observed := by
  obtain ⟨c, h⟩ := Sample.exists_compose_observed
  exact ⟨c, h, tallies_of_compose h⟩

example :
    Sample.observed.roster [{ name := "launcher", replicas := 1 },
      { name := "worker", replicas := 2 }, { name := "m", replicas := 3 }] = [
        (("launcher", "app"), some (.metric 0)),
        (("worker", "worker"), some (.metric 0)),
        (("m", "perf-sysstat"), some (.metric 1)),
        (("m", "app"), some .application),
        (("worker", "side"), some (.addon 0)),
        (("launcher", "hpctoolkit"), some (.addon 1)),
        (("worker", "hpctoolkit"), some (.addon 1)),
        (("m", "hpctoolkit"), some (.addon 1))] := by
  decide +kernel

end MeasuredJob
