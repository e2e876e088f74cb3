import MeasuredJob.Proofs.Assembly.Groups
import MeasuredJob.Proofs.Plugin.Declared

/-!
# The roster of a declaration

Which containers and volumes a declaration of the library's plugins leads to can be read off its
uses, without running any plugin: `Declaration.roster` lists the containers with their contributors.
Every step of the first phase adds what its use says, and so the whole phase adds the roster.
-/

namespace MeasuredJob

open Success

/-- What identifies a container, and who contributed it. -/
def Container.entry (container : Container) : (String × String) × Option Contributor :=
  (container.key, container.contributor)

/-! ## What a use says -/

namespace PluginUse

variable (use : PluginUse)

def isWorkload : Bool :=
  Workload.all.any fun w => w.descriptor.identifier == use.name

def isSampler : Bool :=
  use.name == Sampler.identifier

def isCompanion : Bool :=
  use.name == Companion.identifier

def isProfiler : Bool :=
  use.name == Profiler.identifier

def mountKind? : Option Mount.Kind :=
  Mount.Kind.all.find? fun kind => kind.identifier == use.name

/-- The job groups and names of the containers of a metric. -/
def ownKeys : List (String × String) :=
  if use.isWorkload then
    [(JobGroup.launcherName, Container.applicationName),
      (JobGroup.workerName, Workload.workerContainer)]
  else if use.isSampler then [(JobGroup.defaultName, Sampler.identifier)]
  else []

/-- The job groups of a metric. -/
def ownGroups (ctx : Context) : List JobGroup :=
  if use.isWorkload then Workload.jobGroups ctx
  else if use.isSampler then [Assembly.monitorGroup ctx]
  else []

/-- What the container of an addon is called, when the addon has one. -/
def supportName? : Option String :=
  if use.isCompanion then some (use.bag.textOr "name" Container.applicationName)
  else if use.isProfiler then some Profiler.viewName
  else none

/-- The job group and name of the container of an addon in each job group that it targets. -/
def supportKeys (groups : List JobGroup) : List (String × String) :=
  match use.supportName? with
  | some name =>
    (groups.filter fun g => (Scope.read use.bag).targetsGroup g.name).map fun g => (g.name, name)
  | none => []

/-- The volume of an addon, when it has one. -/
def volume? : Option Volume :=
  if use.isProfiler then
    some {
      name := Profiler.viewName
      source := .emptyDir
      path := use.bag.textOr "mount" Profiler.defaultMount }
  else use.mountKind?.map fun kind => Mount.volume kind (Mount.readOptions kind use.bag)

end PluginUse

/-- The containers of a declaration in order: those of each metric, the application where a metric
watches it, and those of each addon. -/
def Declaration.roster (decl : Declaration) (groups : List JobGroup) :
    List ((String × String) × Option Contributor) :=
  (decl.metrics.zipIdx.flatMap fun entry =>
    entry.1.ownKeys.map fun key => (key, some (.metric entry.2))) ++
  (if decl.metrics.any PluginUse.isSampler then
    [((JobGroup.defaultName, Container.applicationName), some .application)]
  else []) ++
  decl.addons.zipIdx.flatMap fun entry =>
    (entry.1.supportKeys groups).map fun key => (key, some (.addon entry.2))

/-- A container of the roster that is marked with an addon belongs to that addon. -/
theorem Declaration.exists_of_mem_roster {decl : Declaration} {groups : List JobGroup}
    {key : String × String} {index : ℕ}
    (h : (key, some (.addon index)) ∈ decl.roster groups) :
    ∃ use, decl.addons[index]? = some use ∧ key ∈ use.supportKeys groups := by
  rw [roster, List.mem_append, List.mem_append] at h
  rcases h with (hmetric | happlication) | haddon
  · obtain ⟨entry, -, hkey⟩ := List.mem_flatMap.mp hmetric
    obtain ⟨key', -, heq⟩ := List.mem_map.mp hkey
    cases heq
  · split at happlication
    · cases List.mem_singleton.mp happlication
    · exact absurd happlication List.not_mem_nil
  · obtain ⟨entry, hentry, hkey⟩ := List.mem_flatMap.mp haddon
    obtain ⟨key', hkey', heq⟩ := List.mem_map.mp hkey
    cases heq
    exact ⟨entry.1, List.mem_zipIdx_iff_getElem?.mp hentry, hkey'⟩

theorem PluginUse.supportKeys_of_isProfiler {use : PluginUse} (h : use.isProfiler = true)
    (groups : List JobGroup) :
    use.supportKeys groups =
      (groups.filter fun g => (Scope.read use.bag).targetsGroup g.name).map
        fun g => (g.name, Profiler.viewName) := by
  have hother : use.isCompanion = false := by
    rw [isCompanion, beq_iff_eq.mp h]
    decide
  rw [supportKeys, supportName?, hother, h]
  rfl

/-! ## What a plugin does -/

namespace Builtin

variable {use : PluginUse}

theorem isWorkload_of_mem {w : Workload} (hworkload : w ∈ Workload.all)
    (hname : use.name = w.descriptor.identifier) : use.isWorkload = true :=
  List.any_eq_true.mpr ⟨w, hworkload, beq_iff_eq.mpr hname.symm⟩

section

variable {metric : Metric}

theorem DeclaresMetric.isSampler_eq (h : DeclaresMetric use metric) :
    use.isSampler = (metric.kind == .monitor) := by
  cases h with
  | workload hworkload hname =>
    rw [PluginUse.isSampler, hname]
    simp only [Workload.all, List.mem_cons, List.not_mem_nil, or_false] at hworkload
    rcases hworkload with rfl | rfl <;> rfl
  | sampler hname options => rw [PluginUse.isSampler, hname]; rfl

theorem DeclaresMetric.requiresApplication (h : DeclaresMetric use metric)
    (hmonitor : (metric.kind == .monitor) = true) : metric.requiresApplication = true := by
  cases h with
  | workload => cases hmonitor
  | sampler => rfl

theorem DeclaresMetric.volumes_eq (h : DeclaresMetric use metric) : metric.volumes = [] := by
  cases h <;> rfl

theorem DeclaresMetric.metricGroups_eq (h : DeclaresMetric use metric) (ctx : Context) :
    Assembly.metricGroups ctx metric = use.ownGroups ctx := by
  cases h with
  | workload hworkload hname =>
    rw [PluginUse.ownGroups, if_pos (isWorkload_of_mem hworkload hname)]
    rfl
  | sampler hname options =>
    rw [PluginUse.ownGroups, PluginUse.isWorkload, PluginUse.isSampler, hname]
    rfl

theorem DeclaresMetric.entries_eq (h : DeclaresMetric use metric) {ctx : Context}
    {containers : List Container} (hcontainers : metric.containers ctx = .ok containers)
    (index : ℕ) :
    (containers.map (Assembly.adoptFromMetric metric.kind index)).map Container.entry =
      use.ownKeys.map fun key => (key, some (.metric index)) := by
  cases h with
  | workload hworkload hname =>
    cases hcontainers
    rw [PluginUse.ownKeys, if_pos (isWorkload_of_mem hworkload hname)]
    rfl
  | sampler hname options =>
    change Sampler.containers options ctx = .ok containers at hcontainers
    rw [Sampler.containers] at hcontainers
    split at hcontainers
    · cases hcontainers
    · cases hcontainers
      rw [PluginUse.ownKeys, PluginUse.isWorkload, PluginUse.isSampler, hname]
      rfl

end

section

variable {addon : Configured Addon}

/-- The addon adds one container to every job group that it targets, or none to any. -/
theorem DeclaresAddon.entries_eq (h : DeclaresAddon use addon.behaviour) {ctx : Context}
    {groups : List JobGroup} {index : ℕ} {new : List Container}
    (hnew : Assembly.contribution ctx groups (addon, index) = .ok new) :
    new.map Container.entry =
      (use.supportKeys groups).map fun key => (key, some (.addon index)) := by
  obtain ⟨identifier, options, behaviour⟩ := addon
  cases h with
  | companion hname =>
    have hsupport : use.supportName? = some (use.bag.textOr "name" Container.applicationName) := by
      rw [PluginUse.supportName?, PluginUse.isCompanion, hname]
      rfl
    rw [Assembly.contribution_eq_ok fun _ => rfl] at hnew
    cases hnew
    simp only [PluginUse.supportKeys, hsupport, List.map_singleton, ← List.map_eq_flatMap,
      List.map_map]
    rfl
  | profiler hname =>
    have hsupport : use.supportName? = some Profiler.viewName := by
      rw [PluginUse.supportName?, PluginUse.isCompanion, PluginUse.isProfiler, hname]
      rfl
    rw [Assembly.contribution_eq_ok fun _ => rfl] at hnew
    cases hnew
    simp only [PluginUse.supportKeys, hsupport, List.map_singleton, ← List.map_eq_flatMap,
      List.map_map]
    rfl
  | @mount kind hname =>
    have hsupport : use.supportName? = none := by
      rw [PluginUse.supportName?, PluginUse.isCompanion, PluginUse.isProfiler, hname]
      cases kind <;> rfl
    rw [Assembly.contribution_eq_ok fun _ => rfl] at hnew
    cases hnew
    rw [PluginUse.supportKeys, hsupport]
    simp

theorem DeclaresAddon.volumes_eq {addon : Addon} (h : DeclaresAddon use addon) :
    addon.volumes = use.volume?.toList := by
  cases h with
  | companion hname =>
    rw [PluginUse.volume?, PluginUse.isProfiler, PluginUse.mountKind?, hname]
    rfl
  | profiler hname =>
    rw [PluginUse.volume?, PluginUse.isProfiler, hname]
    rfl
  | @mount kind hname =>
    rw [PluginUse.volume?, PluginUse.isProfiler, PluginUse.mountKind?, hname]
    cases kind <;> rfl

end

end Builtin

/-! ## What a phase adds -/

namespace Assembly

/-- `b` is `a` with more containers behind its own, and with more volumes. -/
structure Gains (a b : Assembly) (entries : List ((String × String) × Option Contributor))
    (volumes : List Volume) : Prop where
  containers : b.containers.map Container.entry = a.containers.map Container.entry ++ entries
  volumes : b.volumes = a.volumes ++ volumes

theorem Gains.refl (a : Assembly) : a.Gains a [] [] :=
  ⟨(List.append_nil _).symm, (List.append_nil _).symm⟩

theorem Gains.trans {a b c : Assembly}
    {entries entries' : List ((String × String) × Option Contributor)}
    {volumes volumes' : List Volume} (h : a.Gains b entries volumes)
    (h' : b.Gains c entries' volumes') : a.Gains c (entries ++ entries') (volumes ++ volumes') := by
  constructor
  · rw [h'.containers, h.containers, List.append_assoc]
  · rw [h'.volumes, h.volumes, List.append_assoc]

theorem gains_foldlM {α : Type} {step : Assembly → Configured α × ℕ → Except Error Assembly}
    {motive : Assembly → Prop}
    {entries : PluginUse → ℕ → List ((String × String) × Option Contributor)}
    {volumes : PluginUse → List Volume} {uses : List PluginUse} {plugins : List (Configured α)}
    (h : List.Forall₂ (fun use plugin => ∀ a b index, motive a → step a (plugin, index) = .ok b →
      motive b ∧ a.Gains b (entries use index) (volumes use)) uses plugins)
    {n : ℕ} {a b : Assembly} (ha : motive a)
    (hfold : (plugins.zipIdx n).foldlM step a = .ok b) :
    a.Gains b ((uses.zipIdx n).flatMap fun entry => entries entry.1 entry.2)
      (uses.flatMap volumes) := by
  -- Uses and plugins go together; the place of the first one shifts with every step.
  induction h generalizing n a with
  | nil =>
    cases hfold
    exact .refl _
  | cons hfirst _ ih =>
    rw [List.zipIdx_cons, List.foldlM_cons, bind_eq_ok_iff] at hfold
    obtain ⟨a', hstep, hrest⟩ := hfold
    obtain ⟨ha', hgains⟩ := hfirst a a' n ha hstep
    exact hgains.trans (ih ha' hrest)

variable {ctx : Context} {use : PluginUse} {a b : Assembly} {index : ℕ}

theorem gains_addMetric {metric : Configured Metric}
    (hdeclares : Builtin.DeclaresMetric use metric.behaviour)
    (h : addMetric ctx a (metric, index) = .ok b) :
    a.Gains b (use.ownKeys.map fun key => (key, some (.metric index))) [] := by
  obtain ⟨-, containers, hcontainers, -, rfl⟩ := addMetric_eq_ok_iff.mp h
  constructor
  · rw [List.map_append, hdeclares.entries_eq hcontainers]
  · rw [hdeclares.volumes_eq]

theorem gains_addAddon {addon : Configured Addon}
    (hdeclares : Builtin.DeclaresAddon use addon.behaviour)
    (h : addAddon ctx a (addon, index) = .ok b) :
    a.Gains b ((use.supportKeys a.groups).map fun key => (key, some (.addon index)))
      use.volume?.toList := by
  obtain ⟨-, new, hnew, rfl⟩ := addAddon_eq_ok_iff_contribution.mp h
  constructor
  · rw [List.map_append, hdeclares.entries_eq hnew]
  · rw [hdeclares.volumes_eq]

section

variable {decl : Declaration} {resolution : Resolution}

theorem entries_applicationContainers
    (hdeclares : List.Forall₂ (fun use metric => Builtin.DeclaresMetric use metric.behaviour)
      decl.metrics resolution.metrics)
    (h : resolution.metrics.zipIdx.foldlM (addMetric ctx) a = .ok b) :
    (applicationContainers ctx resolution.metrics).map Container.entry =
      if decl.metrics.any PluginUse.isSampler then
        [((JobGroup.defaultName, Container.applicationName), some .application)]
      else [] := by
  have hkinds := map_eq_map_of_forall₂ hdeclares fun _ _ hof => hof.isSampler_eq
  have hsame := congrArg (fun bs => bs.any id) hkinds
  simp only [List.any_map, Function.id_comp] at hsame
  rw [applicationContainers, hsame]
  split
  · rename_i hmonitor
    -- A monitor has contributed, so the application is complete.
    obtain ⟨metric, hmetric, hkind⟩ := List.any_eq_true.mp hmonitor
    obtain ⟨index, hindex⟩ := List.mem_iff_getElem?.mp hmetric
    have hentry : (metric, index) ∈ resolution.metrics.zipIdx :=
      List.mem_zipIdx_iff_getElem?.mpr hindex
    obtain ⟨a', b', hstep⟩ := exists_step_of_foldlM h hentry
    obtain ⟨use, -, hof⟩ := exists_of_mem_right hdeclares hmetric
    obtain ⟨app, happ⟩ := Option.isSome_iff_exists.mp
      ((addMetric_eq_ok_iff.mp hstep).1 (hof.requiresApplication hkind))
    rw [happ]
    rfl
  · rfl

/-- The first phase contributes the roster. -/
theorem gains_assemble (hresolved : Builtin.registry.resolveAll decl = .ok resolution)
    (h : assemble ctx resolution = .ok a) :
    Gains {} a (decl.roster a.groups) (decl.addons.filterMap PluginUse.volume?) := by
  obtain ⟨ofMetrics, hmetrics, haddons⟩ := assemble_eq_ok_iff.mp h
  have hdeclares := Builtin.forall₂_declaresMetric hresolved
  have hown : Gains {} ofMetrics _ _ := gains_foldlM (motive := fun _ => True)
    (hdeclares.imp fun _ _ hof _ _ _ _ hstep => ⟨trivial, gains_addMetric hof hstep⟩) trivial
    hmetrics
  -- Addons see the job groups that the metrics have left, which are those of the result.
  have hgroups := groups_addAddons haddons
  have hsupport := gains_foldlM (motive := fun b => b.groups = a.groups)
    ((Builtin.forall₂_declaresAddon hresolved).imp fun _ _ hof _ _ _ hbefore hstep =>
      ⟨(groups_addAddon hstep).trans hbefore, hbefore ▸ gains_addAddon hof hstep⟩)
    hgroups.symm haddons
  have happlication := entries_applicationContainers hdeclares hmetrics
  constructor
  · rw [hsupport.containers, List.map_append, hown.containers, happlication]
    simp [Declaration.roster]
  · rw [hsupport.volumes, hown.volumes]
    simp [List.filterMap_eq_flatMap_toList]

end

end Assembly
end MeasuredJob
