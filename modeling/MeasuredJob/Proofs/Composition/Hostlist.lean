import MeasuredJob.Proofs.Composition.Labels
import MeasuredJob.Proofs.Composition.Roster
import MeasuredJob.Proofs.Script.HereDocument

/-!
# The list of hosts

The launcher of a workload writes the hosts of its job into a file before it starts the command.
The list is made from the declaration, and so are the job groups.  The law here is that both agree
in every composition: the file names the pods of the two job groups and no others, each once.
-/

namespace MeasuredJob

open Success

/-- The host names of the pods of a job group. -/
def JobGroup.podNames (setName : String) (group : JobGroup) : List String :=
  (List.range group.replicas.toNat).map fun i =>
    setName ++ "-" ++ group.name ++ "-0-" ++ i.repr ++ "." ++ setName

/-! ## Names of pods -/

section

variable {setName : String}

theorem JobGroup.nodup_podNames (setName : String) (group : JobGroup) :
    (group.podNames setName).Nodup := by
  refine List.nodup_range.map fun i j heq => ?_
  rw [String.append_left_inj, String.append_left_inj, String.append_right_inj] at heq
  exact repr_inj heq

theorem JobGroup.period_mem_of_mem_podNames {group : JobGroup} {host : String}
    (h : host ∈ group.podNames setName) : '.' ∈ host.toList := by
  obtain ⟨i, -, rfl⟩ := List.mem_map.mp h
  rw [String.toList_append, String.toList_append]
  exact List.mem_append_left _ (List.mem_append_right _ List.mem_cons_self)

theorem JobGroup.lineBreak_notMem_of_mem_podNames {group : JobGroup} {host : String}
    (hname : '\n' ∉ setName.toList) (hgroup : '\n' ∉ group.name.toList)
    (h : host ∈ group.podNames setName) : '\n' ∉ host.toList := by
  obtain ⟨i, -, rfl⟩ := List.mem_map.mp h
  have hdigits : '\n' ∉ i.repr.toList := by
    rw [Nat.toList_repr]
    intro hmem
    exact absurd (Nat.isDigit_of_mem_toDigits (by decide) (by decide) hmem) (by decide)
  have hdash : '\n' ∉ "-".toList := by decide
  have hzero : '\n' ∉ "-0-".toList := by decide
  have hperiod : '\n' ∉ ".".toList := by decide
  simp only [String.toList_append, List.mem_append, hname, hgroup, hdigits, hdash, hzero, hperiod,
    or_self, not_false_eq_true]

theorem podNames_disjoint {launcher worker : JobGroup}
    (hlauncher : launcher.name = JobGroup.launcherName)
    (hworker : worker.name = JobGroup.workerName) :
    ∀ host ∈ launcher.podNames setName, ∀ host' ∈ worker.podNames setName, host ≠ host' := by
  intro host hhost host' hhost' heq
  obtain ⟨i, -, rfl⟩ := List.mem_map.mp hhost
  obtain ⟨j, -, rfl⟩ := List.mem_map.mp hhost'
  rw [hlauncher, hworker, String.append_left_inj] at heq
  simp only [String.append_assoc, String.append_right_inj] at heq
  -- Behind the name of the set the names go on with different letters.
  have hfirst := congrArg (fun s : String => s.toList.head?) heq
  simp [JobGroup.launcherName, JobGroup.workerName] at hfirst

end

namespace Workload

theorem hosts_eq_podNames (ctx : Context) :
    hosts ctx = JobGroup.podNames ctx.setName { name := JobGroup.launcherName, replicas := 1 } ++
      JobGroup.podNames ctx.setName
        { name := JobGroup.workerName, replicas := ctx.workerReplicas } :=
  rfl

theorem hostlist_eq_lines (ctx : Context) :
    hostlist ctx = Shell.lines (["# Write the hostlist for the launcher"] ++
      "cat <<EOF > ./hostlist.txt" :: (hosts ctx ++ "EOF" :: ["cat ./hostlist.txt"])) := by
  have hopening : "cat <<" ++ "EOF" ++ " > " ++ hostFile = "cat <<EOF > ./hostlist.txt" := by
    decide
  have hreading : "cat " ++ hostFile = "cat ./hostlist.txt" := by decide
  rw [hostlist, Shell.hereDocument, hopening, hreading]
  simp

theorem hosts_nodup (ctx : Context) : (hosts ctx).Nodup := by
  rw [hosts_eq_podNames, List.nodup_append]
  exact ⟨JobGroup.nodup_podNames _ _, JobGroup.nodup_podNames _ _, podNames_disjoint rfl rfl⟩

theorem period_mem_of_mem_hosts {ctx : Context} {host : String} (h : host ∈ hosts ctx) :
    '.' ∈ host.toList := by
  rw [hosts_eq_podNames, List.mem_append] at h
  rcases h with h | h <;> exact JobGroup.period_mem_of_mem_podNames h

theorem closing_notMem_hosts (ctx : Context) : "EOF" ∉ hosts ctx :=
  fun h => absurd (period_mem_of_mem_hosts h) (by decide)

theorem lineBreak_notMem_of_mem_hosts {ctx : Context} (hname : '\n' ∉ ctx.setName.toList)
    {host : String} (h : host ∈ hosts ctx) : '\n' ∉ host.toList := by
  have hlauncher : '\n' ∉ JobGroup.launcherName.toList := by decide
  have hworker : '\n' ∉ JobGroup.workerName.toList := by decide
  rw [hosts_eq_podNames, List.mem_append] at h
  rcases h with h | h
  · exact JobGroup.lineBreak_notMem_of_mem_podNames hname hlauncher h
  · exact JobGroup.lineBreak_notMem_of_mem_podNames hname hworker h

theorem readHereDocument?_hostlist {ctx : Context} (hname : '\n' ∉ ctx.setName.toList) :
    Shell.readHereDocument? "cat <<EOF > ./hostlist.txt" "EOF" (hostlist ctx) =
      some (hosts ctx) := by
  rw [hostlist_eq_lines]
  refine Shell.readHereDocument?_lines (fun l hl => ?_) (by decide) (closing_notMem_hosts ctx)
  simp only [List.mem_append, List.mem_cons, List.not_mem_nil, or_false] at hl
  rcases hl with rfl | rfl | hhost | rfl | rfl
  · decide
  · decide
  · exact lineBreak_notMem_of_mem_hosts hname hhost
  · decide
  · decide

end Workload

theorem Declaration.replicas_add (decl : Declaration) (name : String) (settings : Settings) :
    1 + (decl.context name settings).workerReplicas.toNat = max decl.pods.toNat 2 := by
  have hpods : (decl.context name settings).pods = if decl.pods = 0 then 1 else decl.pods := rfl
  rw [Context.toNat_workerReplicas, hpods]
  by_cases hzero : decl.pods = 0
  · rw [if_pos hzero, hzero]
    decide
  · have hpositive : decl.pods.toNat ≠ 0 := fun h => hzero (UInt32.toNat_inj.mp h)
    rw [if_neg hzero]
    omega

/-! ## In a composition -/

/-- The fragment of the container writes the hosts of the two job groups of a workload. -/
structure Composition.ListsHosts (name : String) (decl : Declaration) (c : Composition)
    (launcher worker : JobGroup) (k : ComposedContainer) (fragment : String) : Prop where
  launcher_eq : c.jobGroup? JobGroup.launcherName = some launcher
  worker_eq : c.jobGroup? JobGroup.workerName = some worker
  container_eq : c.container? JobGroup.launcherName Container.applicationName = some k
  first : k.spec.script.pre.head? = some fragment
  written : fragment = Shell.lines (["# Write the hostlist for the launcher"] ++
    "cat <<EOF > ./hostlist.txt" ::
      (launcher.podNames name ++ worker.podNames name ++ "EOF" :: ["cat ./hostlist.txt"]))
  distinct : (launcher.podNames name ++ worker.podNames name).Nodup
  replicas : launcher.replicas.toNat + worker.replicas.toNat = max decl.pods.toNat 2
  closing : "EOF" ∉ launcher.podNames name ++ worker.podNames name
  read : '\n' ∉ name.toList →
    Shell.readHereDocument? "cat <<EOF > ./hostlist.txt" "EOF" fragment =
      some (launcher.podNames name ++ worker.podNames name)

section

variable {settings : Settings} {name : String} {decl : Declaration} {resolution : Resolution}
  {contributed customized : Assembly} {c : Composition}

theorem Builtin.DeclaresMetric.exists_workload {use : PluginUse} {metric : Metric}
    (h : DeclaresMetric use metric) (hworkload : use.isWorkload = true) :
    ∃ (w : Workload) (options : Workload.Options), metric = w.metric options := by
  cases h with
  | workload => exact ⟨_, _, rfl⟩
  | sampler hname options =>
    rw [PluginUse.isWorkload, hname] at hworkload
    exact absurd hworkload (by decide)

theorem Stages.exists_launcher_contributed
    (h : Stages Builtin.registry settings name decl resolution contributed customized c)
    {index : ℕ} {use : PluginUse} (huse : decl.metrics[index]? = some use)
    (hworkload : use.isWorkload = true) :
    ∃ start ∈ contributed.containers,
      start.key = (JobGroup.launcherName, Container.applicationName) ∧
      start.contributor = some (.metric index) ∧
      start.script.pre = [Workload.hostlist (decl.context name settings)] := by
  obtain ⟨metric, hmetric, hof⟩ :=
    exists_getElem?_of_forall₂ (Builtin.forall₂_declaresMetric h.resolved) huse
  obtain ⟨w, options, hbehaviour⟩ := hof.exists_workload hworkload
  have hcontainers : metric.behaviour.containers (decl.context name settings) =
      .ok (w.containers options (decl.context name settings)) := by
    rw [hbehaviour]
    rfl
  have hcontributed := Assembly.mem_assemble_of_metric h.assembled hmetric hcontainers
    List.mem_cons_self
  rw [hbehaviour] at hcontributed
  exact ⟨_, hcontributed, rfl, rfl, rfl⟩

theorem Stages.exists_launcher
    (h : Stages Builtin.registry settings name decl resolution contributed customized c)
    {index : ℕ} {use : PluginUse} (huse : decl.metrics[index]? = some use)
    (hworkload : use.isWorkload = true) :
    ∃ k ∈ c.containers, k.spec.key = (JobGroup.launcherName, Container.applicationName) ∧
      k.spec.contributor = some (.metric index) ∧
      k.spec.script.pre.head? = some (Workload.hostlist (decl.context name settings)) := by
  obtain ⟨start, hstart, hkey, hcontributor, hpre⟩ := h.exists_launcher_contributed huse hworkload
  obtain ⟨k, hk, fragments, words, privileged, hspec⟩ :=
    h.exists_customized_of_mem Registry.onlyWraps_builtin hstart
  refine ⟨k, hk, ?_⟩
  rw [hspec]
  -- Addons add their fragments behind the list of hosts.
  have hadded : (start.customized fragments words privileged).script.pre =
      start.script.pre ++ fragments := rfl
  refine ⟨hkey, hcontributor, ?_⟩
  rw [hadded, hpre]
  rfl

theorem Stages.jobGroup?_of_mem_ownGroups
    (h : Stages Builtin.registry settings name decl resolution contributed customized c)
    {use : PluginUse} (huse : use ∈ decl.metrics) {group : JobGroup}
    (hgroup : group ∈ use.ownGroups (decl.context name settings)) :
    c.jobGroup? group.name = some group := by
  have hcontributed : group ∈ c.jobGroups := by
    rw [h.jobGroups_eq_uses]
    exact List.mem_flatMap.mpr ⟨use, huse, hgroup⟩
  exact (Composition.jobGroup?_eq_some_iff h.nodup_jobGroups).mpr ⟨hcontributed, rfl⟩

end

/-- With the plugins of the library the list of hosts that the launcher writes is the list of the
pods of its job, for any number of pods. -/
theorem hosts_listed_of_compose {settings : Settings} {name : String} {decl : Declaration}
    {c : Composition} (h : decl.compose Builtin.registry settings name = .ok c) {index : ℕ}
    {use : PluginUse} (huse : decl.metrics[index]? = some use)
    (hworkload : use.isWorkload = true) :
    ∃ launcher worker k fragment, c.ListsHosts name decl launcher worker k fragment ∧
      k.spec.contributor = some (.metric index) := by
  obtain ⟨resolution, contributed, customized, hstages⟩ := compose_eq_ok_iff.mp h
  let ctx := decl.context name settings
  let launcher : JobGroup := { name := JobGroup.launcherName, replicas := 1 }
  let worker : JobGroup := { name := JobGroup.workerName, replicas := ctx.workerReplicas }
  have hdeclared : use ∈ decl.metrics := List.mem_of_getElem? huse
  have hgroups : use.ownGroups ctx = [launcher, worker] := by
    rw [PluginUse.ownGroups, if_pos hworkload]
    rfl
  have hlauncher : launcher ∈ use.ownGroups ctx := by simp [hgroups]
  have hworker : worker ∈ use.ownGroups ctx := by simp [hgroups]
  obtain ⟨k, hk, hkey, hcontributor, hfirst⟩ := hstages.exists_launcher huse hworkload
  have hgroup : k.spec.jobGroup = JobGroup.launcherName := congrArg Prod.fst hkey
  have hname : k.spec.name = Container.applicationName := congrArg Prod.snd hkey
  refine ⟨launcher, worker, k, Workload.hostlist ctx, {
    launcher_eq := hstages.jobGroup?_of_mem_ownGroups hdeclared hlauncher
    worker_eq := hstages.jobGroup?_of_mem_ownGroups hdeclared hworker
    container_eq := (Composition.container?_eq_some_iff hstages.nodup_keys).mpr ⟨hk, hgroup, hname⟩
    first := hfirst
    written := Workload.hostlist_eq_lines ctx
    distinct := Workload.hosts_nodup ctx
    replicas := decl.replicas_add name settings
    closing := Workload.closing_notMem_hosts ctx
    read := fun hbreak => Workload.readHereDocument?_hostlist hbreak }, hcontributor⟩

/-- The three pods of a workload, one of which runs the launcher. -/
theorem hosts_listed_of_observed :
    ∃ c, Sample.observed.compose Builtin.registry {} "set" = .ok c ∧
      ∃ use, Sample.observed.metrics[0]? = some use ∧ use.isWorkload = true ∧
        ∃ launcher worker k fragment,
          c.ListsHosts "set" Sample.observed launcher worker k fragment ∧
            k.spec.contributor = some (.metric 0) := by
  obtain ⟨c, h⟩ := Sample.exists_compose_observed
  have hworkload : PluginUse.isWorkload { name := "app-pennant" } = true := by decide
  exact ⟨c, h, _, rfl, hworkload, hosts_listed_of_compose h rfl hworkload⟩

example : Workload.hosts (Sample.observed.context "set" {}) =
    ["set-launcher-0-0.set", "set-worker-0-0.set", "set-worker-0-1.set"] := by
  decide +kernel

end MeasuredJob
