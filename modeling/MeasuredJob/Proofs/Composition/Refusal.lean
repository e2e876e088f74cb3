import MeasuredJob.Proofs.Assembly.Refusal
import MeasuredJob.Proofs.Assembly.Uniqueness
import MeasuredJob.Proofs.Composition.Labels
import MeasuredJob.Proofs.Composition.Names
import MeasuredJob.Proofs.Composition.Stages
import MeasuredJob.Proofs.Customization.Order
import MeasuredJob.Proofs.Customization.Registry
import MeasuredJob.Proofs.Plugin.Refusal

/-!
# Refused declarations

Which errors the author of a declaration can run into when all plugins come from the library.  Each
error is traced to what provokes it in the declaration.  The errors that guard against plugins of
others do not occur: no addon of the library renames, moves or misplaces a container, and scripts
are labelled so that no two get one key.
-/

namespace MeasuredJob

open Success Failure

/-! ## Checks of names -/

theorem Assembly.checkUnique_eq_error {a : Assembly} {e : Error} (h : a.checkUnique = .error e) :
    (∃ jobGroup name, e = .duplicateContainer jobGroup name) ∨
      ∃ volume, e = .duplicateVolume volume := by
  cases checkUnique_eq_error_iff.mp h with
  | @container c _ => exact .inl ⟨c.jobGroup, c.name, rfl⟩
  | @volume v _ _ => exact .inr ⟨v.name, rfl⟩

/-! ## Rendering -/

namespace Composition

variable {ctx : Context} {interactive : Bool} {resolution : Resolution} {groups : List JobGroup}
  {e : Error}

/-- Where keys are distinct and job groups are there, only a marker can be in the way. -/
theorem composeContainers_eq_error {containers : List Container}
    (hplaced : ∀ c ∈ containers, Assembly.hasGroup groups c.jobGroup = true)
    (hnodup : ((withKeys 0 containers).filterMap Prod.snd).Nodup)
    (h : composeContainers ctx interactive resolution groups 0 [] containers = .error e) :
    ∃ c ∈ containers, ∃ marker, e = .markerInFragment c.name marker := by
  obtain ⟨before, c, after, rfl, -, hfails⟩ := composeContainers_eq_error_iff.mp h
  have hc : c ∈ before ++ c :: after := List.mem_append_right _ List.mem_cons_self
  cases hfails with
  | unplaced hgroup =>
    obtain ⟨group, hsome⟩ := Assembly.exists_findGroup?_of_hasGroup (hplaced c hc)
    cases hgroup.symm.trans hsome
  | marked _ hfound => exact ⟨c, hc, _, rfl⟩
  | repeated _ hkey hmem =>
    rw [List.append_nil] at hmem
    rw [Nat.zero_add] at hkey
    obtain ⟨label, hlabel, hrepeated, -⟩ := repeats_label hkey hmem
    rw [nodup_keys_withKeys_iff, List.filterMap_append, List.filterMap_cons_some hlabel,
      List.nodup_append] at hnodup
    exact absurd rfl (hnodup.2.2 label hrepeated label List.mem_cons_self)

theorem render_eq_error {assembly : Assembly} (hplaced : assembly.Placed)
    (hnodup : ((withKeys 0 assembly.containers).filterMap Prod.snd).Nodup)
    (h : render ctx interactive resolution assembly = .error e) :
    (∃ c ∈ assembly.containers, ∃ marker, e = .markerInFragment c.name marker) ∨
      ∃ volume, e = .duplicateVolume volume := by
  simp only [render, bind_eq_error_iff, ↓check_bind_eq_error_iff, pure_ne_error, and_false,
    or_false] at h
  rcases h with hcontainers | ⟨containers, -, hclash⟩
  · exact .inl (composeContainers_eq_error hplaced hnodup hcontainers)
  · unfold volumeClash? at hclash
    split at hclash
    · cases hclash
    · rename_i volume _
      split at hclash
      · exact .inr ⟨volume.name, (Option.some.inj hclash).symm⟩
      · cases hclash

end Composition

/-! ## All stages -/

/-- What an error of a declaration says about it. -/
inductive Declaration.Refusal (settings : Settings) (name : String) (decl : Declaration) :
    Error → Prop where
  | noMetrics (h : decl.metrics = []) : Refusal settings name decl .noMetrics
  | ofUse (use : PluginUse) (huse : use ∈ decl.metrics ++ decl.addons) {e : Error}
      (h : e.OfUse use.name) : Refusal settings name decl e
  | missingApplication (use : PluginUse) (huse : use ∈ decl.metrics) :
      Refusal settings name decl (.missingApplication use.name)
  /-- The addon targets a job group that no metric of the declaration contributes. -/
  | unknownJobGroup (resolution : Resolution)
      (hresolved : Builtin.registry.resolveAll decl = .ok resolution) (use : PluginUse)
      (huse : use ∈ decl.addons) (htarget : use.bag.textOr "target" "" ≠ "")
      (hnone : ∀ metric ∈ resolution.metrics, use.bag.textOr "target" "" ∉
        (Assembly.metricGroups (decl.context name settings) metric.behaviour).map JobGroup.name) :
      Refusal settings name decl (.unknownJobGroup use.name (use.bag.textOr "target" ""))
  | duplicateContainer (jobGroup container : String) :
      Refusal settings name decl (.duplicateContainer jobGroup container)
  | duplicateVolume (volume : String) : Refusal settings name decl (.duplicateVolume volume)
  | markerInFragment (container : String) (marker : Marker) :
      Refusal settings name decl (.markerInFragment container marker)

section

variable {settings : Settings} {name : String} {decl : Declaration} {resolution : Resolution}
  {e : Error}

theorem Declaration.Refusal.of_checkUnique {a : Assembly} (h : a.checkUnique = .error e) :
    decl.Refusal settings name e := by
  rcases Assembly.checkUnique_eq_error h with ⟨jobGroup, container, rfl⟩ | ⟨volume, rfl⟩
  · exact .duplicateContainer jobGroup container
  · exact .duplicateVolume volume

theorem Declaration.Refusal.of_assemble
    (hresolved : Builtin.registry.resolveAll decl = .ok resolution)
    (h : Assembly.assemble (decl.context name settings) resolution = .error e) :
    decl.Refusal settings name e := by
  have hmetrics := Builtin.exists_metricOf_of_resolveAll hresolved
  have haddons := Builtin.exists_addonOf_of_resolveAll hresolved
  have hcause := Assembly.assemble_eq_error
    (fun metric hmetric => (hmetrics metric hmetric).elim fun _ huse => huse.2.2)
    (fun addon haddon => (haddons addon haddon).imp' PluginUse.bag fun _ huse => huse.2.2) h
  rcases hcause with ⟨metric, hmetric, rfl⟩ | ⟨addon, haddon, htarget, hnone, rfl⟩
  · obtain ⟨use, huse, hconfigured, -⟩ := hmetrics metric hmetric
    rw [Registry.identifier_of_useMetric hconfigured]
    exact .missingApplication use huse
  · obtain ⟨use, huse, hconfigured, hof⟩ := haddons addon haddon
    have hoption := hof.target_eq.resolve_left htarget
    rw [hoption] at htarget hnone
    rw [Registry.identifier_of_useAddon hconfigured, hoption]
    exact .unknownJobGroup resolution hresolved use huse htarget hnone

/-- The second phase succeeds with the addons of the library, and leaves containers and labels in
their places. -/
theorem Builtin.exists_customized {ctx : Context} {contributed : Assembly}
    (hresolved : Builtin.registry.resolveAll decl = .ok resolution)
    (hassembled : Assembly.assemble ctx resolution = .ok contributed) :
    ∃ customized, contributed.customize resolution.addons = .ok customized ∧ customized.Placed ∧
      ∀ c ∈ customized.containers, c.Labelled := by
  have hmetrics := Builtin.exists_metricOf_of_resolveAll hresolved
  have haddons := Builtin.exists_addonOf_of_resolveAll hresolved
  have hwraps := Registry.onlyWraps_builtin.describes_of_resolveAll hresolved
  have hlabelled := Assembly.labelled_assemble
    (fun metric hmetric => (hmetrics metric hmetric).elim fun _ huse => huse.2.2)
    (fun addon haddon => (haddons addon haddon).imp' PluginUse.bag fun _ huse => huse.2.2)
    hassembled
  have hplaced := Assembly.placed_assemble hassembled
  have hrevised :=
    Assembly.customize_eq_ok hwraps (Assembly.nodup_groups_assemble hassembled) hplaced
  refine ⟨_, hrevised, Assembly.placed_customize hrevised hplaced, fun c' hc' => ?_⟩
  obtain ⟨c, hc, rfl⟩ := List.mem_map.mp hc'
  obtain ⟨fragments, words, privileged, hvisit⟩ := exists_visitAll_eq hwraps contributed.groups c
  rw [hvisit]
  exact hlabelled c hc

/-- Every error of a declaration says something about it. -/
theorem Declaration.refusal_of_compose
    (h : decl.compose Builtin.registry settings name = .error e) :
    decl.Refusal settings name e := by
  rw [compose] at h
  split at h
  · rename_i hempty
    cases h
    exact .noMetrics (List.isEmpty_iff.mp hempty)
  · simp only [assembly, bind_eq_error_iff, bind_eq_ok_iff, pure_eq_ok_iff, pure_ne_error,
      and_false, exists_false, or_false] at h
    rcases h with hresolve | ⟨resolution, hresolved, h⟩
    · obtain ⟨use, huse, hof⟩ := Builtin.exists_of_resolveAll_eq_error hresolve
      exact .ofUse use huse hof
    rcases h with (hassemble | ⟨contributed, hassembled, h⟩) | h
    · exact .of_assemble hresolved hassemble
    · obtain ⟨customized, hrevised, -, -⟩ := Builtin.exists_customized hresolved hassembled
      rw [hrevised] at h
      rcases h with hunique | ⟨-, -, hcustomize | ⟨_, hcustomized, hunique⟩⟩
      · exact .of_checkUnique hunique
      · cases hcustomize
      · exact .of_checkUnique hunique
    · obtain ⟨customized, ⟨contributed, hassembled, -, -, customized', hrevised, ⟨⟩, hunique, rfl⟩,
        hrender⟩ := h
      obtain ⟨customized, hrevised', hplaced, hlabelled⟩ :=
        Builtin.exists_customized hresolved hassembled
      obtain rfl : customized = customized' := Except.ok.inj (hrevised'.symm.trans hrevised)
      have hkeys := (Assembly.checkUnique_eq_ok_iff.mp hunique).1
      rcases Composition.render_eq_error hplaced
        (Composition.nodup_keys_withKeys_iff.mpr
          (Composition.nodup_labels_of_labelled hkeys hlabelled)) hrender with
        ⟨c, -, marker, rfl⟩ | ⟨volume, rfl⟩
      · exact .markerInFragment c.name marker
      · exact .duplicateVolume volume

end

/-- With the plugins of the library, a declaration runs into none of the errors that guard against
plugins of others, and an unknown job group is always the target of a declared addon. -/
theorem provoked_of_compose {settings : Settings} {name : String} {decl : Declaration} {e : Error}
    (h : decl.compose Builtin.registry settings name = .error e) :
    (∀ key, e ≠ .duplicateScript key) ∧
      (∀ plugin jobGroup container, e ≠ .foreignContainerModified plugin jobGroup container) ∧
      (∀ identifier, e ≠ .duplicatePlugin identifier) ∧
      e ≠ .missingName ∧
      ∀ plugin jobGroup, e = .unknownJobGroup plugin jobGroup →
        ∃ use ∈ decl.addons, use.name = plugin ∧ use.bag.textOr "target" "" = jobGroup ∧
          jobGroup ≠ "" ∧
          ∃ resolution, Builtin.registry.resolveAll decl = .ok resolution ∧
            ∀ metric ∈ resolution.metrics, jobGroup ∉ (Assembly.metricGroups
              (decl.context name settings) metric.behaviour).map JobGroup.name := by
  have hrefusal := Declaration.refusal_of_compose h
  refine ⟨fun key => ?_, fun plugin jobGroup container => ?_, fun identifier => ?_, ?_, ?_⟩
  case refine_1 | refine_2 | refine_3 | refine_4 =>
    rintro rfl
    cases hrefusal with
    | ofUse use huse h => cases h
  · rintro plugin jobGroup rfl
    cases hrefusal with
    | ofUse use huse h => cases h
    | unknownJobGroup resolution hresolved use huse htarget hnone =>
      exact ⟨use, huse, rfl, rfl, htarget, resolution, hresolved, hnone⟩

namespace Sample

/-- The job group of the first addon is there, and that of the second one is not. -/
def misdirected : Declaration := {
  metrics := [{ name := "app-lammps" }]
  addons := [
    { name := "application"
      bag := ((target "worker").setText "image" "side").setText "command" "serve" },
    { name := "application"
      bag := ((target "m").setText "image" "side").setText "command" "serve" }] }

end Sample

/-- A target that belongs to another metric. -/
theorem provoked_of_misdirected :
    Sample.misdirected.compose Builtin.registry {} "set" =
        .error (.unknownJobGroup "application" "m") ∧
      ∃ use ∈ Sample.misdirected.addons, use.name = "application" ∧
        use.bag.textOr "target" "" = "m" ∧ "m" ≠ "" ∧
        ∃ resolution, Builtin.registry.resolveAll Sample.misdirected = .ok resolution ∧
          ∀ metric ∈ resolution.metrics, "m" ∉ (Assembly.metricGroups
            (Sample.misdirected.context "set" {}) metric.behaviour).map JobGroup.name := by
  have h : Sample.misdirected.compose Builtin.registry {} "set" =
      .error (.unknownJobGroup "application" "m") := by
    decide +kernel
  exact ⟨h, (provoked_of_compose h).2.2.2.2 _ _ rfl⟩

end MeasuredJob
