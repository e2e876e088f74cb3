import MeasuredJob.Proofs.Assembly.Provenance
import MeasuredJob.Proofs.Composition.Roster

/-!
# Fields of containers

What a cluster needs of a container is a name and an image, and it does not take an optional field
that is there but empty.  The plugins of the library see to that, each in its own check or in what
it contributes, with two gaps: the sampler takes an empty image, and workloads hand on an empty
secret of the application.  The laws here say that there is no third one.
-/

namespace MeasuredJob

open Success

/-- A sampler is given an empty image. -/
def PluginUse.EmptiesImage (use : PluginUse) : Prop :=
  use.isSampler = true ∧ use.bag.text? "image" = some ""

instance : DecidablePred PluginUse.EmptiesImage := fun _ => inferInstanceAs (Decidable (_ ∧ _))

/-- The application has a secret that is empty. -/
def Declaration.EmptiesSecret (decl : Declaration) : Prop :=
  decl.application.bind Application.pullSecret = some ""

/-- The container comes from a metric of which `P` holds. -/
def Declaration.ByMetric (decl : Declaration) (P : PluginUse → Prop) (container : Container) :
    Prop :=
  ∃ index use, container.contributor = some (.metric index) ∧
    decl.metrics[index]? = some use ∧ P use

theorem nonEmpty?_ne_some_empty (s : String) : nonEmpty? s ≠ some "" := by
  rw [nonEmpty?]
  by_cases hs : s = ""
  · simp [hs]
  · rw [if_neg hs]
    exact fun h => hs (Option.some.inj h)

theorem bind_nonEmpty?_ne_some_empty (o : Option String) : o.bind nonEmpty? ≠ some "" := by
  cases o with
  | none => simp
  | some s => exact nonEmpty?_ne_some_empty s

/-! ## In the first phase -/

namespace Declaration

section

variable {decl : Declaration} {P : PluginUse → Prop}

theorem byMetric_iff_of_use {container : Container} {index : ℕ} {use : PluginUse}
    (hmark : container.contributor = some (.metric index))
    (huse : decl.metrics[index]? = some use) : decl.ByMetric P container ↔ P use := by
  constructor
  · intro h
    obtain ⟨index', use', hmark', huse', hP⟩ := h
    obtain rfl := Contributor.metric.inj (Option.some.inj (hmark.symm.trans hmark'))
    obtain rfl := Option.some.inj (huse.symm.trans huse')
    exact hP
  · intro hP
    exact ⟨index, use, hmark, huse, hP⟩

theorem not_byMetric_of_mark {container : Container} {mark : Contributor}
    (hmark : container.contributor = some mark) (hother : ∀ index, mark ≠ .metric index) :
    ¬decl.ByMetric P container := by
  intro h
  obtain ⟨index, use, hmark', -, -⟩ := h
  exact hother index (Option.some.inj (hmark.symm.trans hmark'))

end

namespace Contributes

variable {decl : Declaration} {ctx : Context} {c : Container}

theorem name_ne_empty (h : decl.Contributes ctx c) : c.name ≠ "" := by
  have hfixed : "" ∉ Container.fixedNames := by
    decide
  rcases h.name_mem_fixedNames_or_companion with hmem | ⟨use, -, -, hvalid, hname⟩
  · exact ne_of_mem_of_not_mem hmem hfixed
  · rw [hname]
    exact (Companion.validate_eq_none_iff.mp hvalid).2.2

/-- Every check asks for an image, except that of the sampler. -/
theorem image_eq_empty_iff (h : decl.Contributes ctx c) :
    c.image = "" ↔ decl.ByMetric PluginUse.EmptiesImage c := by
  have hnotMetric : ∀ {c : Container} {mark : Contributor}, c.contributor = some mark →
      (∀ index, mark ≠ .metric index) → c.image ≠ "" →
        (c.image = "" ↔ decl.ByMetric PluginUse.EmptiesImage c) :=
    fun hmark hother himage => iff_of_false himage (not_byMetric_of_mark hmark hother)
  cases h with
  | @workload index use huse w hworkload hname hvalid own hown =>
    have himage : own.image ≠ "" := by
      rw [(Workload.fields_of_mem_containers hown).2.1]
      exact Workload.validate_eq_none_iff.mp hvalid
    have hother : use.isSampler = false :=
      (Builtin.DeclaresMetric.workload hworkload hname).isSampler_eq
    rw [byMetric_iff_of_use rfl huse, PluginUse.EmptiesImage, hother]
    exact iff_of_false himage fun hempties => Bool.false_ne_true hempties.1
  | @sampler index use huse hname options hconfigure hvalid containers hcontainers own hown =>
    have himage : own.image = use.bag.textOr "image" Sampler.defaultImage := by
      rw [(Sampler.fields_of_mem_containers hcontainers hown).2.1]
      exact Sampler.image_of_configure hconfigure
    rw [byMetric_iff_of_use rfl huse, PluginUse.EmptiesImage,
      ← OptionBag.textOr_eq_empty_iff (by decide : Sampler.defaultImage ≠ ""), ← himage]
    exact (and_iff_right (beq_iff_eq.mpr hname)).symm
  | @application app happ =>
    have hcomplete : app.isComplete = true := (Option.filter_eq_some_iff.mp happ).2
    have himage : app.image ≠ "" := by
      rw [Application.isComplete, Bool.and_eq_true] at hcomplete
      exact bne_iff_ne.mp hcomplete.1
    exact hnotMetric rfl (fun _ => Contributor.noConfusion) himage
  | companion huse hname hvalid group =>
    exact hnotMetric rfl (fun _ => Contributor.noConfusion)
      (Companion.validate_eq_none_iff.mp hvalid).1
  | view huse hname hvalid group =>
    exact hnotMetric rfl (fun _ => Contributor.noConfusion)
      (Profiler.validate_eq_none_iff.mp hvalid).2.1

theorem workingDir_ne_some_empty (h : decl.Contributes ctx c) : c.workingDir ≠ some "" := by
  cases h with
  | @workload index use huse w hworkload hname hvalid own hown =>
    show own.workingDir ≠ some ""
    rw [(Workload.fields_of_mem_containers hown).2.2.1]
    exact nonEmpty?_ne_some_empty _
  | @sampler index use huse hname options hconfigure hvalid containers hcontainers own hown =>
    show own.workingDir ≠ some ""
    rw [(Sampler.fields_of_mem_containers hcontainers hown).2.2.1]
    simp
  | application => exact bind_nonEmpty?_ne_some_empty _
  | companion => exact nonEmpty?_ne_some_empty _
  | view =>
    show none ≠ some ""
    simp

/-- Whoever fills in a secret leaves out an empty one, except for workloads. -/
theorem pullSecret_eq_some_empty_iff {name : String} {settings : Settings}
    (h : decl.Contributes (decl.context name settings) c) :
    c.pullSecret = some "" ↔
      decl.ByMetric (fun use => use.isWorkload = true) c ∧ decl.EmptiesSecret := by
  have hnotMetric : ∀ {c : Container} {mark : Contributor}, c.contributor = some mark →
      (∀ index, mark ≠ .metric index) → c.pullSecret ≠ some "" → (c.pullSecret = some "" ↔
        decl.ByMetric (fun use => use.isWorkload = true) c ∧ decl.EmptiesSecret) :=
    fun hmark hother hsecret =>
      iff_of_false hsecret fun hboth => not_byMetric_of_mark hmark hother hboth.1
  cases h with
  | @workload index use huse w hworkload hname hvalid own hown =>
    have hsecret : own.pullSecret = decl.application.bind Application.pullSecret :=
      (Workload.fields_of_mem_containers hown).2.2.2
    show own.pullSecret = some "" ↔ _
    rw [byMetric_iff_of_use rfl huse, EmptiesSecret, hsecret]
    exact (and_iff_right (Builtin.isWorkload_of_mem hworkload hname)).symm
  | @sampler index use huse hname options hconfigure hvalid containers hcontainers own hown =>
    have hsecret : own.pullSecret = none :=
      (Sampler.fields_of_mem_containers hcontainers hown).2.2.2
    have hother : use.isWorkload = false := by
      rw [PluginUse.isWorkload, hname]
      decide
    show own.pullSecret = some "" ↔ _
    rw [byMetric_iff_of_use rfl huse, hsecret, hother]
    simp
  | application =>
    exact hnotMetric rfl (fun _ => Contributor.noConfusion) (bind_nonEmpty?_ne_some_empty _)
  | companion =>
    exact hnotMetric rfl (fun _ => Contributor.noConfusion) (nonEmpty?_ne_some_empty _)
  | view =>
    have hnone : (none : Option String) ≠ some "" := by simp
    exact hnotMetric rfl (fun _ => Contributor.noConfusion) hnone

end Contributes
end Declaration

/-! ## In a composition -/

section

variable {settings : Settings} {name : String} {decl : Declaration} {resolution : Resolution}
  {contributed customized : Assembly} {c : Composition}

/-- Addons of the library leave alone what a plugin has filled in. -/
theorem Stages.exists_contributes
    (h : Stages Builtin.registry settings name decl resolution contributed customized c)
    {k : ComposedContainer} (hk : k ∈ c.containers) :
    ∃ start fragments words privileged, decl.Contributes (decl.context name settings) start ∧
      k.spec = start.customized fragments words privileged := by
  obtain ⟨as, start, -, hstart, hcustomizes⟩ := h.exists_customizes Registry.onlyWraps_builtin hk
  obtain ⟨fragments, words, privileged, hspec⟩ := hcustomizes.exists_eq_customized
  exact ⟨start, fragments, words, privileged,
    Assembly.contributes_of_assemble h.resolved h.assembled start hstart, hspec⟩

/-- No metric of the library does without containers. -/
theorem Stages.exists_byMetric_iff
    (h : Stages Builtin.registry settings name decl resolution contributed customized c)
    {P : PluginUse → Prop} :
    (∃ k ∈ c.containers, decl.ByMetric P k.spec) ↔ ∃ use ∈ decl.metrics, P use := by
  constructor
  · intro hby
    obtain ⟨k, -, index, use, -, huse, hP⟩ := hby
    exact ⟨use, List.mem_of_getElem? huse, hP⟩
  · intro hdeclared
    obtain ⟨use, huse, hP⟩ := hdeclared
    obtain ⟨index, hindex⟩ := List.mem_iff_getElem?.mp huse
    obtain ⟨metric, -, hof⟩ :=
      exists_of_mem_left (Builtin.forall₂_declaresMetric h.resolved) huse
    obtain ⟨key, hkey⟩ : ∃ key, key ∈ use.ownKeys := by
      rcases hof.isWorkload_or_isSampler with hworkload | hsampler
      · exact ⟨_, PluginUse.mem_ownKeys_of_isWorkload hworkload⟩
      · exact ⟨_, PluginUse.mem_ownKeys_of_isSampler hsampler⟩
    have hentry : (key, some (Contributor.metric index)) ∈ decl.roster c.jobGroups := by
      have hplace : (use, index) ∈ decl.metrics.zipIdx := List.mem_zipIdx_iff_getElem?.mpr hindex
      exact List.mem_append_left _ (List.mem_append_left _
        (List.mem_flatMap.mpr ⟨_, hplace, List.mem_map_of_mem hkey⟩))
    rw [← h.entries_eq_roster] at hentry
    obtain ⟨k, hk, heq⟩ := List.mem_map.mp hentry
    exact ⟨k, hk, index, use, congrArg Prod.snd heq, hindex, hP⟩

end

/-- With the plugins of the library every container has a name, and an image unless its sampler was
given an empty one.  So a composition can be started exactly if no sampler was. -/
theorem images_set_of_compose {settings : Settings} {name : String} {decl : Declaration}
    {c : Composition} (h : decl.compose Builtin.registry settings name = .ok c) :
    (∀ k ∈ c.containers, k.spec.name ≠ "" ∧
      (k.spec.image = "" ↔ decl.ByMetric PluginUse.EmptiesImage k.spec)) ∧
    ((∀ k ∈ c.containers, k.spec.image ≠ "") ↔ ∀ use ∈ decl.metrics, ¬use.EmptiesImage) := by
  obtain ⟨resolution, contributed, customized, hstages⟩ := compose_eq_ok_iff.mp h
  have hfields : ∀ k ∈ c.containers, k.spec.name ≠ "" ∧
      (k.spec.image = "" ↔ decl.ByMetric PluginUse.EmptiesImage k.spec) := by
    intro k hk
    obtain ⟨start, fragments, words, privileged, hstart, hspec⟩ := hstages.exists_contributes hk
    rw [hspec]
    exact ⟨hstart.name_ne_empty, hstart.image_eq_empty_iff⟩
  have hempty : (∃ k ∈ c.containers, k.spec.image = "") ↔
      ∃ use ∈ decl.metrics, use.EmptiesImage := by
    rw [← hstages.exists_byMetric_iff]
    exact exists_congr fun k => and_congr_right fun hk => (hfields k hk).2
  refine ⟨hfields, ?_⟩
  simpa only [not_exists, not_and] using not_congr hempty

/-- A workload, a sampler with its own image and three addons have nothing empty. -/
theorem images_set_of_observed :
    ∃ c, Sample.observed.compose Builtin.registry {} "set" = .ok c ∧
      ∀ k ∈ c.containers, k.spec.name ≠ "" ∧ k.spec.image ≠ "" := by
  obtain ⟨c, h⟩ := Sample.exists_compose_observed
  obtain ⟨hfields, hall⟩ := images_set_of_compose h
  have hnone : ∀ use ∈ Sample.observed.metrics, ¬use.EmptiesImage := by
    decide +kernel
  exact ⟨c, h, fun k hk => ⟨(hfields k hk).1, hall.mpr hnone k hk⟩⟩

namespace Sample

/-- A sampler whose image is given and empty. -/
def imageless : Declaration := {
  application := some { image := "i", command := "run" }
  metrics := [{ name := "perf-sysstat", bag := OptionBag.empty.setText "image" "" }] }

end Sample

/-- A sampler accepts an empty image, and its container cannot be started. -/
theorem image_empty_of_imageless :
    ∃ c, Sample.imageless.compose Builtin.registry {} "set" = .ok c ∧
      ∃ k ∈ c.containers, k.spec.name = "perf-sysstat" ∧ k.spec.image = "" := by
  have hrehearsed : Sample.imageless.rehearse Builtin.registry {} "set" (List.any · fun k =>
      k.name == "perf-sysstat" && k.image == "") = .ok true := by
    decide +kernel
  obtain ⟨c, h, k, hk, hfits⟩ := exists_container_of_rehearse hrehearsed
  rw [Bool.and_eq_true] at hfits
  exact ⟨c, h, k, hk, beq_iff_eq.mp hfits.1, beq_iff_eq.mp hfits.2⟩

/-- With the plugins of the library no directory is there but empty, and a secret only where a
workload hands on an empty one of the application. -/
theorem secrets_set_of_compose {settings : Settings} {name : String} {decl : Declaration}
    {c : Composition} (h : decl.compose Builtin.registry settings name = .ok c) :
    (∀ k ∈ c.containers, k.spec.workingDir ≠ some "" ∧ (k.spec.pullSecret = some "" ↔
      decl.ByMetric (fun use => use.isWorkload = true) k.spec ∧ decl.EmptiesSecret)) ∧
    ((∀ k ∈ c.containers, k.spec.pullSecret ≠ some "") ↔
      ((∃ use ∈ decl.metrics, use.isWorkload = true) → ¬decl.EmptiesSecret)) := by
  obtain ⟨resolution, contributed, customized, hstages⟩ := compose_eq_ok_iff.mp h
  have hfields : ∀ k ∈ c.containers, k.spec.workingDir ≠ some "" ∧ (k.spec.pullSecret = some "" ↔
      decl.ByMetric (fun use => use.isWorkload = true) k.spec ∧ decl.EmptiesSecret) := by
    intro k hk
    obtain ⟨start, fragments, words, privileged, hstart, hspec⟩ := hstages.exists_contributes hk
    rw [hspec]
    exact ⟨hstart.workingDir_ne_some_empty, hstart.pullSecret_eq_some_empty_iff⟩
  have hempty : (∃ k ∈ c.containers, k.spec.pullSecret = some "") ↔
      (∃ use ∈ decl.metrics, use.isWorkload = true) ∧ decl.EmptiesSecret := by
    rw [← hstages.exists_byMetric_iff]
    constructor
    · intro hsecret
      obtain ⟨k, hk, hsecret⟩ := hsecret
      obtain ⟨hby, hempties⟩ := (hfields k hk).2.mp hsecret
      exact ⟨⟨k, hk, hby⟩, hempties⟩
    · intro hboth
      obtain ⟨⟨k, hk, hby⟩, hempties⟩ := hboth
      exact ⟨k, hk, (hfields k hk).2.mpr ⟨hby, hempties⟩⟩
  refine ⟨hfields, ?_⟩
  simpa only [not_exists, not_and] using not_congr hempty

theorem secrets_set_of_observed :
    ∃ c, Sample.observed.compose Builtin.registry {} "set" = .ok c ∧
      ∀ k ∈ c.containers, k.spec.workingDir ≠ some "" ∧ k.spec.pullSecret ≠ some "" := by
  obtain ⟨c, h⟩ := Sample.exists_compose_observed
  obtain ⟨hfields, hall⟩ := secrets_set_of_compose h
  have hnone : ¬Sample.observed.EmptiesSecret := by
    rw [Declaration.EmptiesSecret]
    decide
  exact ⟨c, h, fun k hk => ⟨(hfields k hk).1, hall.mpr (fun _ => hnone) k hk⟩⟩

namespace Sample

/-- An application whose secret is given and empty, and a workload that runs it. -/
def secretless : Declaration := {
  application := some { image := "i", command := "run", pullSecret := some "" }
  metrics := [{ name := "app-pennant" }] }

end Sample

/-- An application without a secret, which it says by an empty one, gives it to the launcher of a
workload. -/
theorem secret_empty_of_secretless :
    ∃ c, Sample.secretless.compose Builtin.registry {} "set" = .ok c ∧
      ∃ k ∈ c.containers, k.spec.jobGroup = "launcher" ∧ k.spec.pullSecret = some "" := by
  have hrehearsed : Sample.secretless.rehearse Builtin.registry {} "set" (List.any · fun k =>
      k.jobGroup == "launcher" && k.pullSecret == some "") = .ok true := by
    decide +kernel
  obtain ⟨c, h, k, hk, hfits⟩ := exists_container_of_rehearse hrehearsed
  rw [Bool.and_eq_true] at hfits
  exact ⟨c, h, k, hk, beq_iff_eq.mp hfits.1, beq_iff_eq.mp hfits.2⟩

end MeasuredJob
