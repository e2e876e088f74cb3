import MeasuredJob.Proofs.Assembly.Contributions
import MeasuredJob.Proofs.Composition.Roster
import MeasuredJob.Proofs.Plugin.Fragments
import MeasuredJob.Proofs.Plugin.SharedView

/-!
# The view of the profiler

A container that the profiler sets up does not start before the view is there, so somebody has to
copy the view to the directory at which it waits.  The first phase decides where the view is copied
and the second one who waits for it.  Both go by the same job groups and by the same directory, and
so nobody waits in vain unless a blank in the directory leads the copy astray.
-/

namespace MeasuredJob

open Success

/-- The view of the profiler at the place `index` is there for the containers of `group`.  One
container copies it and is just as the profiler contributed it, so that it does not wait itself.
The view is copied to a volume that containers mount and may write to. -/
structure Composition.ServesView (ctx : Context) (c : Composition) (index : ℕ)
    (options : Profiler.Options) (group : JobGroup) : Prop where
  copied : ∃ view fragment, (c.containers.filter fun k => k.spec.jobGroup == group.name &&
      k.spec.standalone && k.spec.contributor == some (.addon index)) = [view] ∧
    view.spec = Assembly.adoptFromAddon index group (Profiler.viewContainer options group ctx) ∧
    view.spec.script = {
      name := some ("hpctoolkit-" ++ group.name)
      pre := [fragment]
      command := { launcher := none, invocation := ctx.settings.idleCommand }
      post := [] } ∧
    Profiler.CopiesView options.mount fragment ∧
    ∀ mount, Profiler.waitFragment mount ∉ view.spec.script.pre
  volume : ∃ volume ∈ c.mountedVolumes, volume.path = options.mount ∧ volume.readOnly = false

theorem Builtin.DeclaresAddon.eq_profiler {use : PluginUse} {addon : Addon}
    (h : DeclaresAddon use addon) (hprofiler : use.isProfiler = true) :
    addon = Profiler.addon (Profiler.readOptions use.bag) := by
  cases h with
  | profiler => rfl
  | companion hname =>
    rw [PluginUse.isProfiler, hname] at hprofiler
    exact absurd hprofiler (by decide)
  | @mount kind hname =>
    rw [PluginUse.isProfiler, hname] at hprofiler
    cases kind <;> exact absurd hprofiler (by decide)

theorem Builtin.DeclaresAddon.isProfiler_of_setup {use : PluginUse} {addon : Addon}
    (h : DeclaresAddon use addon) {group : JobGroup} {fragment : String}
    (hsetup : addon.setup group = some fragment) : use.isProfiler = true := by
  cases h with
  | profiler hname => exact beq_iff_eq.mpr hname
  | companion | mount => cases hsetup

section

variable {settings : Settings} {name : String} {decl : Declaration} {resolution : Resolution}
  {contributed customized : Assembly} {c : Composition}

theorem Builtin.exists_profiler_of_isProfiler
    (hresolved : Builtin.registry.resolveAll decl = .ok resolution) {index : ℕ} {use : PluginUse}
    (huse : decl.addons[index]? = some use) (hprofiler : use.isProfiler = true) :
    ∃ addon, resolution.addons[index]? = some addon ∧
      addon.behaviour = Profiler.addon (Profiler.readOptions use.bag) := by
  obtain ⟨addon, haddon, hof⟩ :=
    exists_getElem?_of_forall₂ (Builtin.forall₂_declaresAddon hresolved) huse
  exact ⟨addon, haddon, hof.eq_profiler hprofiler⟩

/-- A container waits only for a declared profiler that targets its job group. -/
theorem Stages.exists_of_waits
    (h : Stages Builtin.registry settings name decl resolution contributed customized c)
    {k : ComposedContainer} (hk : k ∈ c.containers) {mount : String}
    (hwaits : Profiler.waitFragment mount ∈ k.spec.script.pre) :
    ∃ (index : ℕ) (use : PluginUse) (group : JobGroup), decl.addons[index]? = some use ∧
      use.isProfiler = true ∧ mount = (Profiler.readOptions use.bag).mount ∧
      group ∈ c.jobGroups ∧ group.name = k.spec.jobGroup ∧
      (Profiler.readOptions use.bag).scope.targetsGroup group.name = true := by
  obtain ⟨as, start, has, hstart, hcustomizes⟩ :=
    h.exists_customizes Registry.onlyWraps_builtin hk
  -- Nobody waits when the first phase ends, so an addon has made the container wait.
  have hbefore := Assembly.waitFragment_notMem h.resolved h.assembled mount start hstart
  obtain ⟨a, ha, group, hgroup, hname, htarget, hsetup⟩ :=
    (hcustomizes.mem_pre hwaits).resolve_left hbefore
  have haddon : a.addon ∈ resolution.addons := has ▸ List.mem_map_of_mem ha
  obtain ⟨index, hindex⟩ := List.mem_iff_getElem?.mp haddon
  obtain ⟨use, huse, hof⟩ :=
    exists_getElem?_of_forall₂ (Builtin.forall₂_declaresAddon h.resolved).flip hindex
  have hprofiler := hof.isProfiler_of_setup hsetup
  rw [hof.eq_profiler hprofiler] at hsetup htarget
  have hmount : Profiler.waitFragment (Profiler.readOptions use.bag).mount =
      Profiler.waitFragment mount := Option.some.inj hsetup
  refine ⟨index, use, group, huse, hprofiler, (Profiler.waitFragment_inj hmount).symm, ?_, ?_,
    htarget⟩
  · rw [h.jobGroups_eq]
    exact hgroup
  · rw [hname]
    exact hcustomizes.jobGroup_eq.symm

theorem Stages.name_of_profiler
    (h : Stages Builtin.registry settings name decl resolution contributed customized c)
    {index : ℕ} {use : PluginUse} (huse : decl.addons[index]? = some use)
    (hprofiler : use.isProfiler = true) {k : ComposedContainer} (hk : k ∈ c.containers)
    (hmark : k.spec.contributor = some (.addon index)) : k.spec.name = Profiler.viewName := by
  have hentry : (k.spec.key, some (Contributor.addon index)) ∈ decl.roster c.jobGroups := by
    rw [← h.entries_eq_roster, ← hmark]
    exact List.mem_map_of_mem hk
  obtain ⟨use', huse', hkey⟩ := Declaration.exists_of_mem_roster hentry
  obtain rfl : use = use' := Option.some.inj (huse.symm.trans huse')
  rw [PluginUse.supportKeys_of_isProfiler hprofiler] at hkey
  obtain ⟨group, -, heq⟩ := List.mem_map.mp hkey
  exact (congrArg Prod.snd heq).symm

/-- In every job group that it targets, the profiler copies the view. -/
theorem Stages.servesView
    (h : Stages Builtin.registry settings name decl resolution contributed customized c)
    {index : ℕ} {use : PluginUse} (huse : decl.addons[index]? = some use)
    (hprofiler : use.isProfiler = true) {group : JobGroup} (hgroup : group ∈ c.jobGroups)
    (htarget : (Profiler.readOptions use.bag).scope.targetsGroup group.name = true) :
    c.ServesView (decl.context name settings) index (Profiler.readOptions use.bag) group := by
  obtain ⟨addon, haddon, hbehaviour⟩ :=
    Builtin.exists_profiler_of_isProfiler h.resolved huse hprofiler
  let ctx := decl.context name settings
  let options := Profiler.readOptions use.bag
  let copier := Assembly.adoptFromAddon index group (Profiler.viewContainer options group ctx)
  have hcontributed : copier ∈ contributed.containers := by
    have hcontainers : ∀ group, addon.behaviour.containers group ctx =
        .ok [Profiler.viewContainer options group ctx] := by
      intro group
      rw [hbehaviour]
      rfl
    have hgroup' : group ∈ contributed.groups := h.jobGroups_eq ▸ hgroup
    have htarget' : addon.behaviour.scope.targetsGroup group.name = true := by
      rw [hbehaviour]
      exact htarget
    exact Assembly.mem_assemble_of_addon h.assembled haddon hcontainers hgroup' htarget'
      (List.mem_singleton_self _)
  -- Addons pass over containers that stand alone, so this one comes out as it was contributed.
  have hspec : copier ∈ c.containers.map ComposedContainer.spec := by
    have huntouched : visitAll contributed.groups resolution.addons copier = copier :=
      visitAll_of_standalone _ _ rfl
    rw [h.specs_eq_map_visitAll Registry.onlyWraps_builtin, ← huntouched]
    exact List.mem_map_of_mem hcontributed
  obtain ⟨view, hview, hcopier⟩ := List.mem_map.mp hspec
  have hkeys := h.nodup_keys
  have halone : ∀ k ∈ c.containers, (k.spec.jobGroup == group.name && k.spec.standalone &&
      k.spec.contributor == some (.addon index)) = true → k = view := by
    intro k hk hfits
    simp only [Bool.and_eq_true, beq_iff_eq] at hfits
    obtain ⟨⟨hgroup', -⟩, hmark⟩ := hfits
    have hname := h.name_of_profiler huse hprofiler hk hmark
    have hkey : k.spec.key = view.spec.key := by
      rw [hcopier]
      exact Prod.ext hgroup' hname
    exact List.inj_on_of_nodup_map hkeys hk hview hkey
  have hfits : (view.spec.jobGroup == group.name && view.spec.standalone &&
      view.spec.contributor == some (.addon index)) = true := by
    simp [hcopier, copier, Assembly.adoptFromAddon, Profiler.viewContainer]
  have hscript : view.spec.script = {
      name := some ("hpctoolkit-" ++ group.name)
      pre := [Profiler.viewFragment options.mount]
      command := { launcher := none, invocation := ctx.settings.idleCommand }
      post := [] } := by
    rw [hcopier]
    rfl
  refine ⟨⟨view, _, filter_eq_singleton_of_unique hkeys.of_map hview hfits halone, hcopier,
    hscript, Profiler.copiesView_viewFragment _, fun mount hwaits => ?_⟩, ?_⟩
  · rw [hscript, List.mem_singleton] at hwaits
    exact Profiler.waitFragment_ne_viewFragment mount options.mount hwaits
  · let volume : Volume := { name := Profiler.viewName, source := .emptyDir, path := options.mount }
    have hvolume : use.volume? = some volume := by
      rw [PluginUse.volume?, if_pos hprofiler]
      rfl
    have hcontributed : volume ∈ c.volumes := by
      rw [h.volumes_eq_uses]
      exact List.mem_filterMap.mpr ⟨use, List.mem_of_getElem? huse, hvolume⟩
    have hmounted : volume ∈ c.mountedVolumes :=
      List.mem_filter.mpr ⟨List.mem_append_left _ hcontributed, rfl⟩
    exact ⟨volume, hmounted, rfl, rfl⟩

end

/-- With the plugins of the library a container waits only for a declared profiler that serves the
view in the job group of the container.  The container that copies the view and the one that waits
for it are given the same directory, and a directory without a blank is the same one to both. -/
theorem served_of_waits {settings : Settings} {name : String} {decl : Declaration} {c : Composition}
    (h : decl.compose Builtin.registry settings name = .ok c) {k : ComposedContainer}
    (hk : k ∈ c.containers) {mount : String}
    (hwaits : Profiler.waitFragment mount ∈ k.spec.script.pre) :
    ∃ (index : ℕ) (use : PluginUse) (group : JobGroup), decl.addons[index]? = some use ∧
      use.name = Profiler.identifier ∧ mount = use.bag.textOr "mount" Profiler.defaultMount ∧
      group ∈ c.jobGroups ∧ group.name = k.spec.jobGroup ∧
      Profiler.AwaitsView mount (Profiler.waitFragment mount) ∧
      c.ServesView (decl.context name settings) index (Profiler.readOptions use.bag) group := by
  obtain ⟨resolution, contributed, customized, hstages⟩ := compose_eq_ok_iff.mp h
  obtain ⟨index, use, group, huse, hprofiler, hmount, hgroup, hname, htarget⟩ :=
    hstages.exists_of_waits hk hwaits
  exact ⟨index, use, group, huse, beq_iff_eq.mp hprofiler, hmount, hgroup, hname,
    Profiler.awaitsView_waitFragment mount, hstages.servesView huse hprofiler hgroup htarget⟩

/-- The containers of a workload wait, each in its own job group. -/
theorem served_of_observed :
    ∃ c, Sample.observed.compose Builtin.registry {} "set" = .ok c ∧
      ∃ k ∈ c.containers, k.spec.jobGroup = "worker" ∧
        Profiler.waitFragment "/opt/share" ∈ k.spec.script.pre ∧
        ∃ (index : ℕ) (use : PluginUse) (group : JobGroup),
          Sample.observed.addons[index]? = some use ∧ use.name = Profiler.identifier ∧
          "/opt/share" = use.bag.textOr "mount" Profiler.defaultMount ∧
          group ∈ c.jobGroups ∧ group.name = k.spec.jobGroup ∧
          Profiler.AwaitsView "/opt/share" (Profiler.waitFragment "/opt/share") ∧
          c.ServesView (Sample.observed.context "set" {}) index (Profiler.readOptions use.bag)
            group := by
  have hrehearsed : Sample.observed.rehearse Builtin.registry {} "set" (List.any · fun k =>
      k.jobGroup == "worker" && k.script.pre.contains (Profiler.waitFragment "/opt/share")) =
        .ok true := by
    decide +kernel
  obtain ⟨c, h, k, hk, hfits⟩ := exists_container_of_rehearse hrehearsed
  simp only [Bool.and_eq_true, beq_iff_eq, List.contains_iff_mem] at hfits
  exact ⟨c, h, k, hk, hfits.1, hfits.2, served_of_waits h hk hfits.2⟩

namespace Sample

/-- The profiler with a directory whose name has a blank. -/
def spaced : Declaration := {
  metrics := [{ name := "app-pennant" }]
  addons := [
    { name := "perf-hpctoolkit"
      bag := (OptionBag.empty.setText "events" "-e IO").setText "mount" "/opt/my share" }] }

end Sample

/-- With a blank in the name of the directory, a container waits for what nobody copies: the view
ends up in the working directory of the container that copies it. -/
theorem unserved_of_spaced :
    ∃ c, Sample.spaced.compose Builtin.registry {} "set" = .ok c ∧
      (∃ k ∈ c.containers, k.spec.jobGroup = "worker" ∧ ∃ fragment ∈ k.spec.script.pre,
        (Shell.commands? (fun _ => "view") fragment).map (·.filterMap Shell.testOf?) =
          some [("-x", "/opt/my share/view/bin/hpcrun"), ("-d", "/opt/my share/software")]) ∧
      ∀ k ∈ c.containers, k.spec.jobGroup = "worker" → k.spec.standalone = true →
        ∃ fragment, k.spec.script.pre = [fragment] ∧
          (Shell.commands? (fun _ => "view") fragment).map (·.flatMap Shell.copiesOf) =
            some [("/opt/views/._view/view/*", "share/view"), ("/opt/my", "share/view/my"),
              ("/opt/software", "share/software"), ("/opt/my", "share/my")] := by
  have hrehearsed : Sample.spaced.rehearse Builtin.registry {} "set" (fun containers =>
      (containers.any fun k => k.jobGroup == "worker" &&
        k.script.pre.contains (Profiler.waitFragment "/opt/my share")) &&
      containers.all fun k => !(k.jobGroup == "worker" && k.standalone) ||
        k.script.pre == [Profiler.viewFragment "/opt/my share"]) = .ok true := by
    decide +kernel
  obtain ⟨c, h, hcheck⟩ := exists_compose_of_rehearse hrehearsed
  rw [List.any_map, List.all_map, Bool.and_eq_true, List.any_eq_true, List.all_eq_true] at hcheck
  obtain ⟨⟨k, hk, hfits⟩, hall⟩ := hcheck
  simp only [Function.comp_apply, Bool.and_eq_true, beq_iff_eq, List.contains_iff_mem] at hfits
  have hmount : Shell.Literal "/opt/my share" := by decide
  refine ⟨c, h, ⟨k, hk, hfits.1, _, hfits.2, ?_⟩, fun k hk hgroup halone =>
    ⟨Profiler.viewFragment "/opt/my share", ?_, ?_⟩⟩
  · rw [Profiler.commands?_waitFragment hmount, Option.map_some, Profiler.tests_waitCommands]
    rfl
  · have hpre := hall k hk
    simp only [Function.comp_apply, hgroup, halone, beq_self_eq_true, Bool.and_self, Bool.not_true,
      Bool.false_or, beq_iff_eq] at hpre
    exact hpre
  · rw [Profiler.commands?_viewFragment hmount, Option.map_some]
    exact congrArg some (by decide +kernel)

end MeasuredJob
