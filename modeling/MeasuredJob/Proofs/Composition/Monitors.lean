import MeasuredJob.Proofs.Assembly.Monitors
import MeasuredJob.Proofs.Composition.Customized
import MeasuredJob.Proofs.Composition.Readiness

/-!
# Monitors in a composition

Monitors run beside what they observe.  Whatever metrics are added to those of the library, and
whatever job groups they ask for, all monitors of a composition end up in one job group that shares
its processes, and the declared application is started there as well.  Without a monitor nobody
starts the application, and processes are shared only where a metric asks for it.
-/

namespace MeasuredJob

open Success

/-! ## What a composition owes its monitors -/

/-- The containers that bear a mark, in order. -/
def Composition.contributedBy (c : Composition) (mark : Contributor) : List ComposedContainer :=
  c.containers.filter fun k => k.spec.contributor == some mark

/-- The line that starts the application, with the words of the addons around it. -/
def Application.wrappedLine (app : Application) (as : List WrappingAddon) (group : JobGroup) :
    String :=
  (WrappingAddon.wordsAround group as (Assembly.applicationContainer app)).foldl wrapText
    app.startLine

/-- The container measures the application in `group`, by a script that is passed to the shell. -/
structure ComposedContainer.RunsApplication (settings : Settings) (as : List WrappingAddon)
    (group : JobGroup) (app : Application) (k : ComposedContainer) : Prop where
  jobGroup : k.spec.jobGroup = group.name
  image : k.spec.image = app.image
  launch : k.launch = .inline
  shell : k.command = [settings.shell, "-c", k.script]
  command : k.spec.script.command = { invocation := app.wrappedLine as group }
  measured : ∃ setup teardown, k.script = setup ++ Script.markerLine .collectionStart ++
    Script.line (app.wrappedLine as group) ++ Script.markerLine .collectionEnd ++ teardown

/-- Monitors see the processes of one job group and may trace them, and a complete application runs
in that group, once. -/
structure Composition.Monitored (decl : Declaration) (ctx : Context) (resolution : Resolution)
    (c : Composition) : Prop where
  shared : ∃ group, c.jobGroup? JobGroup.defaultName = some group ∧ group.sharesProcesses = true
  beside : ∀ index metric, resolution.metrics[index]? = some metric →
    metric.behaviour.kind = .monitor → ∃ containers,
      metric.behaviour.containers ctx = .ok containers ∧
      List.Forall₂ (fun container k => k.spec.name = container.name ∧
        k.spec.jobGroup = JobGroup.defaultName ∧
        Security.traceCapability ∈ k.spec.security.capabilities)
        containers (c.contributedBy (.metric index))
  application : ∀ app, decl.application = some app → app.image ≠ "" → app.command ≠ "" →
    ∃ as group k, as.map WrappingAddon.addon = resolution.addons ∧
      c.jobGroup? JobGroup.defaultName = some group ∧ c.contributedBy .application = [k] ∧
      k.RunsApplication ctx.settings as group app

/-- Nobody starts the application, and metrics decide which job groups share processes. -/
structure Composition.Unmonitored (ctx : Context) (resolution : Resolution) (c : Composition) :
    Prop where
  application : c.contributedBy .application = []
  shared : ∀ group ∈ c.jobGroups, group.sharesProcesses = true ↔
    ∃ metric ∈ resolution.metrics,
      Assembly.SharesIn (metric.behaviour.jobGroups ctx) group.name

/-! ## From the first phase to the composition -/

theorem Declaration.completeApplication?_context {decl : Declaration} {name : String}
    {settings : Settings} {app : Application} (happ : decl.application = some app)
    (himage : app.image ≠ "") (hcommand : app.command ≠ "") :
    (decl.context name settings).completeApplication? = some app := by
  have hcomplete : app.isComplete = true := by
    simp [Application.isComplete, himage, hcommand]
  exact Option.filter_eq_some_iff.mpr ⟨happ, hcomplete⟩

section

variable {registry : Registry} {settings : Settings} {name : String} {decl : Declaration}
  {resolution : Resolution} {contributed customized : Assembly} {c : Composition}

/-- Addons that only wrap leave the marks of containers as they are. -/
theorem Stages.forall₂_contributedBy (hwraps : registry.OnlyWraps)
    (h : Stages registry settings name decl resolution contributed customized c) :
    ∃ as, as.map WrappingAddon.addon = resolution.addons ∧ ∀ mark,
      List.Forall₂ (fun start k => WrappingAddon.Customizes as contributed.groups start k.spec)
        (Assembly.markedWith mark contributed.containers) (c.contributedBy mark) := by
  obtain ⟨as, has, hall⟩ := h.forall₂_customizes hwraps
  refine ⟨as, has, fun mark => List.rel_filter (fun start k hcustomizes => ?_) hall⟩
  obtain ⟨fragments, words, privileged, hspec⟩ := hcustomizes.exists_eq_customized
  show (start.contributor == some mark) = true ↔ (k.spec.contributor == some mark) = true
  rw [hspec]
  rfl

theorem Stages.shares_iff
    (h : Stages registry settings name decl resolution contributed customized c)
    {group : JobGroup} (hgroup : group ∈ c.jobGroups) :
    group.sharesProcesses = true ↔ ∃ metric ∈ resolution.metrics, Assembly.SharesIn
      (Assembly.metricGroups (decl.context name settings) metric.behaviour) group.name := by
  rw [Assembly.sharesProcesses_iff_of_mem h.nodup_jobGroups hgroup, h.jobGroups_eq,
    Assembly.sharesIn_assemble h.assembled]

/-- A customized application is still the application. -/
theorem Stages.runsApplication
    (h : Stages registry settings name decl resolution contributed customized c)
    {as : List WrappingAddon} {app : Application} {k : ComposedContainer} (hk : k ∈ c.containers)
    (hcustomizes : WrappingAddon.Customizes as contributed.groups
      (Assembly.applicationContainer app) k.spec) :
    ∃ group, c.jobGroup? JobGroup.defaultName = some group ∧
      k.RunsApplication settings as group app := by
  obtain ⟨group, hgroup, hname, hspec, -⟩ := hcustomizes.regular rfl
  have hrenders := h.renders_of_mem hk
  have hinline : k.spec.persistScript = false := by
    rw [hspec]
    rfl
  have hcommand : k.spec.script.command = { invocation := app.wrappedLine as group } := by
    rw [hspec]
    rfl
  obtain ⟨hlaunch, hshell⟩ := hrenders.inShell hinline
  obtain ⟨runsIn, -, hrender⟩ := hrenders.script
  have hscript : k.script =
      Script.text name settings decl.logging.interactive k.spec runsIn :=
    (Script.render_eq_ok_iff.mp hrender).2
  have hmeasured : Script.measuredRegion k.spec.script =
      Script.line (app.wrappedLine as group) := by
    rw [Script.measuredRegion, hcommand]
    rfl
  refine ⟨group, ?_, ?_⟩
  · rw [← h.jobGroups_eq] at hgroup
    exact (Composition.jobGroup?_eq_some_iff h.nodup_jobGroups).mpr ⟨hgroup, hname⟩
  · refine {
      jobGroup := ?_
      image := ?_
      launch := hlaunch
      shell := hshell
      command := hcommand
      measured := ?_ }
    · rw [hcustomizes.jobGroup_eq, hname]
    · rw [hspec]
      rfl
    · refine ⟨Script.setupRegion name settings.shell k.spec runsIn ++
          Script.markerLine .separator, Script.fragmentTexts k.spec.script.post ++
          (if decl.logging.interactive then Script.interactiveTail settings.idleCommand else ""),
        ?_⟩
      rw [hscript, Script.text, hmeasured]
      simp only [String.append_assoc]

/-- A monitor shares the processes of its job group. -/
theorem Stages.monitored (hwraps : registry.OnlyWraps)
    (h : Stages registry settings name decl resolution contributed customized c)
    (hmonitor : ∃ metric ∈ resolution.metrics, metric.behaviour.kind = .monitor) :
    c.Monitored decl (decl.context name settings) resolution := by
  obtain ⟨watcher, hwatcher, hkind⟩ := hmonitor
  obtain ⟨as, has, hmarks⟩ := h.forall₂_contributedBy hwraps
  refine {
    shared := ?_
    beside := fun index metric hmetric hmonitor => ?_
    application := fun app happ himage hcommand => ?_ }
  · have hasked : Assembly.SharesIn contributed.groups JobGroup.defaultName := by
      rw [Assembly.sharesIn_assemble h.assembled]
      refine ⟨watcher, hwatcher, Assembly.monitorGroup (decl.context name settings), ?_, rfl, rfl⟩
      rw [Assembly.metricGroups, hkind]
      exact List.mem_singleton_self _
    obtain ⟨group, hgroup, hname, hshares⟩ := hasked
    rw [← h.jobGroups_eq] at hgroup
    exact ⟨group, (Composition.jobGroup?_eq_some_iff h.nodup_jobGroups).mpr ⟨hgroup, hname⟩,
      hshares⟩
  · obtain ⟨containers, hcontainers, hmarked⟩ :=
      Assembly.exists_markedWith_metric_assemble h.assembled hmetric
    refine ⟨containers, hcontainers, ?_⟩
    have hadopted := hmarks (.metric index)
    rw [hmarked, hmonitor, List.forall₂_map_left_iff] at hadopted
    refine hadopted.imp fun container k hcustomizes => ?_
    obtain ⟨fragments, words, privileged, hspec⟩ := hcustomizes.exists_eq_customized
    rw [hspec]
    exact ⟨rfl, rfl, Security.mem_addCapability _ _⟩
  · have hany : (resolution.metrics.any fun m => m.behaviour.kind == .monitor) = true :=
      List.any_eq_true.mpr ⟨watcher, hwatcher, beq_iff_eq.mpr hkind⟩
    have hstarted := hmarks .application
    rw [Assembly.markedWith_application_assemble h.assembled, Assembly.applicationContainers,
      if_pos hany, decl.completeApplication?_context happ himage hcommand] at hstarted
    obtain ⟨k, ks, hcustomizes, hnone, hcontributed⟩ := List.forall₂_cons_left_iff.mp hstarted
    obtain rfl := List.forall₂_nil_left_iff.mp hnone
    have hk : k ∈ c.contributedBy .application := hcontributed ▸ List.mem_cons_self
    obtain ⟨group, hgroup, hruns⟩ := h.runsApplication (List.mem_filter.mp hk).1 hcustomizes
    exact ⟨as, group, k, has, hgroup, hcontributed, hruns⟩

theorem Stages.unmonitored (hwraps : registry.OnlyWraps)
    (h : Stages registry settings name decl resolution contributed customized c)
    (hnone : ∀ metric ∈ resolution.metrics, metric.behaviour.kind ≠ .monitor) :
    c.Unmonitored (decl.context name settings) resolution := by
  constructor
  · obtain ⟨as, -, hmarks⟩ := h.forall₂_contributedBy hwraps
    have hany : ¬(resolution.metrics.any fun m => m.behaviour.kind == .monitor) = true := by
      intro hany
      obtain ⟨metric, hmetric, hkind⟩ := List.any_eq_true.mp hany
      exact hnone metric hmetric (beq_iff_eq.mp hkind)
    have hstarted := hmarks .application
    rw [Assembly.markedWith_application_assemble h.assembled, Assembly.applicationContainers,
      if_neg hany] at hstarted
    exact List.forall₂_nil_left_iff.mp hstarted
  · intro group hgroup
    rw [h.shares_iff hgroup]
    refine exists_congr fun metric => and_congr_right fun hmetric => ?_
    have hworkload : metric.behaviour.kind = .workload := by
      cases hkind : metric.behaviour.kind with
      | workload => rfl
      | monitor => exact absurd hkind (hnone metric hmetric)
    rw [Assembly.metricGroups, hworkload]

end

/-- With the addons of the library, and any metrics besides those of the library: if a declared
metric is a monitor, all monitors and the application run together, and otherwise no application is
started and no metric has processes shared against its will. -/
theorem monitors_beside_application (metrics : List (Plugin Metric)) {settings : Settings}
    {name : String} {decl : Declaration} {c : Composition}
    (h : decl.compose (Builtin.extend Builtin.registry (metrics.map .metric)) settings name =
      .ok c) :
    ∃ resolution,
      (Builtin.extend Builtin.registry (metrics.map .metric)).resolveAll decl = .ok resolution ∧
      ((∃ metric ∈ resolution.metrics, metric.behaviour.kind = .monitor) →
        c.Monitored decl (decl.context name settings) resolution) ∧
      ((∀ metric ∈ resolution.metrics, metric.behaviour.kind ≠ .monitor) →
        c.Unmonitored (decl.context name settings) resolution) := by
  have hwraps : (Builtin.extend Builtin.registry (metrics.map .metric)).OnlyWraps := by
    refine Registry.onlyWraps_extend Registry.onlyWraps_builtin fun p hp => ?_
    obtain ⟨metric, -, hmetric⟩ := List.mem_map.mp hp
    cases hmetric
  obtain ⟨resolution, contributed, customized, hstages⟩ := compose_eq_ok_iff.mp h
  exact ⟨resolution, hstages.resolved, hstages.monitored hwraps, hstages.unmonitored hwraps⟩

namespace Sample

/-- Runs in the default job group, and does not ask for shared processes. -/
def base : Plugin Metric :=
  plugin "base" fun _ => {
    kind := .workload
    containers := fun _ => .ok [
      { name := "base", jobGroup := JobGroup.defaultName, image := "i"
        script := { command := { invocation := "serve" } } }] }

/-- A monitor that asks for a job group of its own. -/
def probe : Plugin Metric :=
  plugin "probe" fun _ => {
    kind := .monitor
    jobGroups := fun _ => [{ name := "apart", replicas := 1 }]
    containers := fun _ => .ok [
      { name := "probe", jobGroup := "apart", image := "i"
        script := { command := { invocation := "watch" } } }] }

/-- Two monitors in a job group to which a workload has contributed before, and the profiler around
the commands in it. -/
def watched : Declaration := {
  pods := 2
  application := some { image := "i", command := "run", entrypoint := some "start run" }
  metrics := [{ name := "base" }, { name := "probe" }, { name := "perf-sysstat" }]
  addons := [{ name := "perf-hpctoolkit", bag := OptionBag.empty.setText "events" "-e IO" }] }

end Sample

/-- A workload comes first to the job group of the monitors and does not share its processes, and
one of the monitors asks for another job group. -/
theorem monitors_beside_watched_application :
    ∃ c, Sample.watched.compose (Builtin.extend Builtin.registry
        ([Sample.base, Sample.probe].map .metric)) {} "set" = .ok c ∧
      ∃ resolution, (Builtin.extend Builtin.registry
          ([Sample.base, Sample.probe].map .metric)).resolveAll Sample.watched = .ok resolution ∧
        (∃ metric ∈ resolution.metrics, metric.behaviour.kind = .monitor) ∧
        c.Monitored Sample.watched (Sample.watched.context "set" {}) resolution := by
  have hrehearsed : Sample.watched.rehearse (Builtin.extend Builtin.registry
      ([Sample.base, Sample.probe].map .metric)) {} "set" (fun _ => true) = .ok true := by
    decide +kernel
  obtain ⟨c, h, -⟩ := exists_compose_of_rehearse hrehearsed
  obtain ⟨resolution, hresolved, hmonitored, -⟩ :=
    monitors_beside_application [Sample.base, Sample.probe] h
  have hkinds : ((Builtin.extend Builtin.registry
      ([Sample.base, Sample.probe].map .metric)).resolveAll Sample.watched).map (fun r =>
        r.metrics.any fun metric => metric.behaviour.kind == .monitor) = .ok true := by
    decide +kernel
  rw [hresolved] at hkinds
  have hmonitor : ∃ metric ∈ resolution.metrics, metric.behaviour.kind = .monitor := by
    obtain ⟨metric, hmetric, hkind⟩ := List.any_eq_true.mp (Except.ok.inj hkinds)
    exact ⟨metric, hmetric, beq_iff_eq.mp hkind⟩
  exact ⟨c, h, resolution, hresolved, hmonitor, hmonitored hmonitor⟩

end MeasuredJob
