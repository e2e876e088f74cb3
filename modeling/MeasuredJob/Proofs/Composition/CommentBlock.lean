import MeasuredJob.Proofs.Composition.Fields
import MeasuredJob.Proofs.Composition.Labels
import MeasuredJob.Proofs.Script.Preamble

/-!
# Comment blocks in a composition

The texts in the comment block of a script are the name of the composition, the job group and the
name of the container.  With the plugins of the library all of them are fixed or come with the
composition, except the names of companions: a declaration chooses them, and the check of a
companion only asks that there is one.
-/

namespace MeasuredJob

open Success

section

variable {settings : Settings} {name : String} {decl : Declaration} {resolution : Resolution}
  {contributed customized : Assembly} {c : Composition}

theorem Stages.commentsFirst_iff (hshell : '\n' ∉ settings.shell.toList)
    (hname : '\n' ∉ name.toList)
    (h : Stages Builtin.registry settings name decl resolution contributed customized c)
    {k : ComposedContainer} (hk : k ∈ c.containers) :
    (∃ l ∈ Shell.readLines k.script, Script.startsCode l = true) ∧
      (Script.CommentsFirst k.script ↔ Script.StaysComment k.spec.name) := by
  obtain ⟨group, hgroup, hrender⟩ := (h.renders_of_mem hk).script
  have hmetrics : ∀ metric ∈ resolution.metrics, Builtin.MetricOf metric.behaviour := by
    intro metric hmetric
    obtain ⟨use, -, -, hof⟩ := Builtin.exists_metricOf_of_resolveAll h.resolved metric hmetric
    exact hof
  have hknown : ∀ name ∈ [JobGroup.launcherName, JobGroup.workerName, JobGroup.defaultName],
      '\n' ∉ name.toList := by
    decide
  have hplaced : group ∈ contributed.groups := by
    rw [← h.jobGroups_eq]
    exact (Assembly.name_of_findGroup? hgroup).1
  have hscript : k.script = Script.text name settings decl.logging.interactive k.spec group :=
    (Script.render_eq_ok_iff.mp hrender).2
  rw [hscript]
  exact Script.commentsFirst_text_iff hshell hname
    (hknown _ (Assembly.name_mem_of_assemble hmetrics h.assembled group hplaced)) _

theorem Stages.jobGroups_ne_nil
    (h : Stages Builtin.registry settings name decl resolution contributed customized c) :
    c.jobGroups ≠ [] := by
  obtain ⟨use, huse⟩ := List.exists_mem_of_ne_nil decl.metrics h.declared
  obtain ⟨k, hk, -⟩ := (h.exists_byMetric_iff (P := fun _ => True)).mpr ⟨use, huse, trivial⟩
  obtain ⟨group, hgroup, -⟩ := (h.renders_of_mem hk).script
  exact List.ne_nil_of_mem (Assembly.name_of_findGroup? hgroup).1

theorem Builtin.DeclaresAddon.eq_companion {use : PluginUse} {addon : Addon}
    (h : DeclaresAddon use addon) (hcompanion : use.isCompanion = true) :
    addon = Companion.addon (Companion.readOptions use.bag) := by
  cases h with
  | companion => rfl
  | profiler hname =>
    rw [PluginUse.isCompanion, hname] at hcompanion
    exact absurd hcompanion (by decide)
  | @mount kind hname =>
    rw [PluginUse.isCompanion, hname] at hcompanion
    cases kind <;> exact absurd hcompanion (by decide)

/-- Every companion runs in some job group. -/
theorem Stages.exists_of_companion
    (h : Stages Builtin.registry settings name decl resolution contributed customized c)
    {use : PluginUse} (huse : use ∈ decl.addons) (hcompanion : use.isCompanion = true) :
    ∃ k ∈ c.containers, k.spec.name = use.bag.textOr "name" Container.applicationName := by
  obtain ⟨index, hindex⟩ := List.mem_iff_getElem?.mp huse
  obtain ⟨addon, haddon, hof⟩ :=
    exists_getElem?_of_forall₂ (Builtin.forall₂_declaresAddon h.resolved) hindex
  have hbehaviour := hof.eq_companion hcompanion
  have hcontainers : ∀ group, addon.behaviour.containers group (decl.context name settings) =
      .ok [Companion.container (Companion.readOptions use.bag) group] := by
    intro group
    rw [hbehaviour]
    rfl
  have htarget := Assembly.hasTarget_of_assemble h.assembled (List.mem_of_getElem? haddon)
  obtain ⟨group, hgroup, htargeted⟩ :=
    htarget.exists_targeted (h.jobGroups_eq ▸ h.jobGroups_ne_nil)
  have hcontributed := Assembly.mem_assemble_of_addon h.assembled haddon hcontainers hgroup
    htargeted (List.mem_singleton_self _)
  obtain ⟨k, hk, fragments, words, privileged, hspec⟩ :=
    h.exists_customized_of_mem Registry.onlyWraps_builtin hcontributed
  refine ⟨k, hk, ?_⟩
  rw [hspec]
  rfl

end

/-- With the plugins of the library, and no line break in the shell and in the name of the
composition, only the name of a container can put code into its comment block.  So nothing but
comments stands before the first line of code exactly if the names of companions allow it. -/
theorem comments_first_of_compose {settings : Settings} {name : String} {decl : Declaration}
    {c : Composition} (hshell : '\n' ∉ settings.shell.toList) (hname : '\n' ∉ name.toList)
    (h : decl.compose Builtin.registry settings name = .ok c) :
    (∀ k ∈ c.containers, (∃ l ∈ Shell.readLines k.script, Script.startsCode l = true) ∧
      (Script.CommentsFirst k.script ↔ Script.StaysComment k.spec.name)) ∧
    ((∀ k ∈ c.containers, Script.CommentsFirst k.script) ↔
      ∀ use ∈ decl.addons, use.isCompanion = true →
        Script.StaysComment (use.bag.textOr "name" Container.applicationName)) := by
  obtain ⟨resolution, contributed, customized, hstages⟩ := compose_eq_ok_iff.mp h
  have hscripts : ∀ k ∈ c.containers,
      (∃ l ∈ Shell.readLines k.script, Script.startsCode l = true) ∧
        (Script.CommentsFirst k.script ↔ Script.StaysComment k.spec.name) :=
    fun k hk => hstages.commentsFirst_iff hshell hname hk
  refine ⟨hscripts, fun hall use huse hcompanion => ?_, fun hnames k hk => ?_⟩
  · obtain ⟨k, hk, hown⟩ := hstages.exists_of_companion huse hcompanion
    rw [← hown]
    exact (hscripts k hk).2.mp (hall k hk)
  · rw [(hscripts k hk).2]
    obtain ⟨start, fragments, words, privileged, hstart, hspec⟩ := hstages.exists_contributes hk
    rw [hspec]
    show Script.StaysComment start.name
    have hfixed : ∀ fixed ∈ Container.fixedNames, '\n' ∉ fixed.toList := by
      decide
    rcases hstart.name_mem_fixedNames_or_companion with hmem | hown
    · exact Script.staysComment_of_notMem (hfixed _ hmem)
    · obtain ⟨use, huse, hcompanion, -, hchosen⟩ := hown
      rw [hchosen]
      exact hnames use huse (beq_iff_eq.mpr hcompanion)

/-- Names of one line leave the comment blocks of all scripts alone. -/
theorem comments_first_of_observed :
    ∃ c, Sample.observed.compose Builtin.registry {} "set" = .ok c ∧
      ∀ k ∈ c.containers, Script.CommentsFirst k.script := by
  obtain ⟨c, h⟩ := Sample.exists_compose_observed
  have hnames : ∀ use ∈ Sample.observed.addons, use.isCompanion = true →
      '\n' ∉ (use.bag.textOr "name" Container.applicationName).toList := by
    decide +kernel
  exact ⟨c, h, (comments_first_of_compose (by decide) (by decide) h).2.mpr
    fun use huse hcompanion => Script.staysComment_of_notMem (hnames use huse hcompanion)⟩

namespace Sample

/-- A companion whose name has a second line. -/
def breaking : Declaration := {
  metrics := [{ name := "app-pennant" }]
  addons := [
    { name := "application"
      bag := ((OptionBag.empty.setText "name" "x\nrm -rf /").setText "image" "i").setText
        "command" "c" }] }

end Sample

/-- The second line of a name is a command, which the script runs before its first line of code. -/
theorem code_before_breaking :
    ∃ c, Sample.breaking.compose Builtin.registry {} "set" = .ok c ∧
      ∃ k ∈ c.containers, (∃ l ∈ Shell.readLines k.script, Script.startsCode l = true) ∧
        ¬Script.CommentsFirst k.script := by
  have hrehearsed : Sample.breaking.rehearse Builtin.registry {} "set"
      (List.any · fun k => k.name == "x\nrm -rf /") = .ok true := by
    decide +kernel
  obtain ⟨c, h, k, hk, hfits⟩ := exists_container_of_rehearse hrehearsed
  have hname : k.spec.name = "x\nrm -rf /" := beq_iff_eq.mp hfits
  obtain ⟨resolution, contributed, customized, hstages⟩ := compose_eq_ok_iff.mp h
  obtain ⟨hcode, hiff⟩ := hstages.commentsFirst_iff (by decide) (by decide) hk
  refine ⟨c, h, k, hk, hcode, fun hcomments => ?_⟩
  have hstays := hiff.mp hcomments
  rw [hname] at hstays
  exact absurd hstays (by decide)

end MeasuredJob
