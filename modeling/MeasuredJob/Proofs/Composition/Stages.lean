import MeasuredJob.Proofs.Arrangement
import MeasuredJob.Proofs.Composition.Rendering

/-!
# Stages of a composition

A composition succeeds when each of its stages does.  `Stages` names their results, so that a law
of compositions can be put together from laws of single stages.
-/

namespace MeasuredJob

open Success

/-! ## Look-ups -/

namespace Composition

theorem container?_eq_some_iff {c : Composition}
    (hkeys : (c.containers.map fun k => k.spec.key).Nodup) {jobGroup name : String}
    {k : ComposedContainer} :
    c.container? jobGroup name = some k ↔
      k ∈ c.containers ∧ k.spec.jobGroup = jobGroup ∧ k.spec.name = name := by
  rw [container?, find?_eq_some_iff_of_unique]
  · simp
  · intro k hk k' hk' hfits hfits'
    simp only [Bool.and_eq_true, beq_iff_eq] at hfits hfits'
    have hkey : k.spec.key = k'.spec.key := by
      rw [Container.key, Container.key, hfits.1, hfits.2, hfits'.1, hfits'.2]
    exact List.inj_on_of_nodup_map hkeys hk hk' hkey

theorem jobGroup?_eq_some_iff {c : Composition} (hnames : (c.jobGroups.map JobGroup.name).Nodup)
    {name : String} {group : JobGroup} :
    c.jobGroup? name = some group ↔ group ∈ c.jobGroups ∧ group.name = name := by
  rw [jobGroup?, find?_eq_some_iff_of_unique]
  · rw [beq_iff_eq]
  · intro group hgroup group' hgroup' hfits hfits'
    have hname : group.name = group'.name := (beq_iff_eq.mp hfits).trans (beq_iff_eq.mp hfits').symm
    exact List.inj_on_of_nodup_map hnames hgroup hgroup' hname

end Composition

/-! ## Stages -/

/-- The results of the stages of a successful composition: `contributed` is the assembly after the
first phase and `customized` the one after the second. -/
structure Stages (registry : Registry) (settings : Settings) (name : String) (decl : Declaration)
    (resolution : Resolution) (contributed customized : Assembly) (c : Composition) : Prop where
  declared : decl.metrics ≠ []
  resolved : registry.resolveAll decl = .ok resolution
  assembled : Assembly.assemble (decl.context name settings) resolution = .ok contributed
  contributedUnique : contributed.checkUnique = .ok ()
  revised : contributed.customize resolution.addons = .ok customized
  customizedUnique : customized.checkUnique = .ok ()
  rendered : Composition.render (decl.context name settings) decl.logging.interactive resolution
    customized = .ok c

namespace Stages

variable {registry : Registry} {settings : Settings} {name : String} {decl : Declaration}
  {resolution : Resolution} {contributed customized : Assembly} {c : Composition}

theorem name_eq (h : Stages registry settings name decl resolution contributed customized c) :
    c.name = name := by
  obtain ⟨containers, -, -, rfl⟩ := Composition.render_eq_ok_iff.mp h.rendered
  rfl

theorem jobGroups_eq
    (h : Stages registry settings name decl resolution contributed customized c) :
    c.jobGroups = contributed.groups := by
  obtain ⟨containers, -, -, rfl⟩ := Composition.render_eq_ok_iff.mp h.rendered
  exact Assembly.groups_customize h.revised

theorem nodup_jobGroups
    (h : Stages registry settings name decl resolution contributed customized c) :
    (c.jobGroups.map JobGroup.name).Nodup := by
  rw [h.jobGroups_eq]
  exact Assembly.nodup_groups_assemble h.assembled

/-- The composed containers are the customized ones with their keys. -/
theorem forall₂_composes
    (h : Stages registry settings name decl resolution contributed customized c) :
    List.Forall₂ (Composition.Composes (decl.context name settings) decl.logging.interactive
      c.jobGroups) (Composition.withKeys 0 customized.containers) c.containers := by
  obtain ⟨containers, hcontainers, -, rfl⟩ := Composition.render_eq_ok_iff.mp h.rendered
  exact (Composition.composeContainers_eq_ok_iff.mp hcontainers).1

/-- The composed containers are the customized ones, in their order. -/
theorem forall₂_renders
    (h : Stages registry settings name decl resolution contributed customized c) :
    List.Forall₂ (ComposedContainer.Renders (decl.context name settings)
      decl.logging.interactive c.jobGroups) customized.containers c.containers :=
  Composition.forall₂_renders_of_render h.rendered

theorem specs_eq (h : Stages registry settings name decl resolution contributed customized c) :
    c.containers.map ComposedContainer.spec = customized.containers :=
  Composition.specs_of_render h.rendered

/-- Containers are told apart by job group and name. -/
theorem nodup_keys (h : Stages registry settings name decl resolution contributed customized c) :
    (c.containers.map fun k => k.spec.key).Nodup := by
  have hunique := (Assembly.checkUnique_eq_ok_iff.mp h.customizedUnique).1
  rw [← h.specs_eq, List.map_map] at hunique
  exact hunique

theorem renders_of_mem
    (h : Stages registry settings name decl resolution contributed customized c)
    {k : ComposedContainer} (hk : k ∈ c.containers) :
    k.Renders (decl.context name settings) decl.logging.interactive c.jobGroups k.spec := by
  obtain ⟨container, -, hrenders⟩ := exists_of_mem_right h.forall₂_renders hk
  exact hrenders.spec ▸ hrenders

theorem nodup_scriptKeys
    (h : Stages registry settings name decl resolution contributed customized c) :
    (c.containers.filterMap ComposedContainer.scriptKey?).Nodup :=
  Composition.nodup_scriptKeys_of_render h.rendered

theorem entrypointVolume_eq
    (h : Stages registry settings name decl resolution contributed customized c) :
    c.entrypointVolume = Composition.scriptVolume (decl.context name settings)
      (c.containers.filterMap ComposedContainer.scriptKey?) := by
  obtain ⟨containers, -, -, rfl⟩ := Composition.render_eq_ok_iff.mp h.rendered
  rfl

/-- The volumes of the plugins differ in name from each other and from the one with the scripts. -/
theorem nodup_allVolumes
    (h : Stages registry settings name decl resolution contributed customized c) :
    (c.allVolumes.map Volume.name).Nodup := by
  have hunique := (Assembly.checkUnique_eq_ok_iff.mp h.customizedUnique).2
  obtain ⟨containers, -, hclash, rfl⟩ := Composition.render_eq_ok_iff.mp h.rendered
  rw [Composition.volumeClash?_eq_none_iff] at hclash
  rw [Composition.allVolumes, List.map_append, List.nodup_append]
  refine ⟨hunique, ?_, ?_⟩
  · cases Composition.scriptVolume _ _ <;> simp
  · intro a ha b hb hab
    rw [List.mem_map] at hb
    obtain ⟨volume, hvolume, rfl⟩ := hb
    exact hclash volume (Option.mem_toList.mp hvolume) (hab ▸ ha)

end Stages

theorem Declaration.assembly_eq_ok_iff {resolution : Resolution} {ctx : Context} {d : Assembly} :
    Declaration.assembly resolution ctx = .ok d ↔
      ∃ b, Assembly.assemble ctx resolution = .ok b ∧ b.checkUnique = .ok () ∧
        b.customize resolution.addons = .ok d ∧ d.checkUnique = .ok () := by
  simp only [Declaration.assembly, bind_eq_ok_iff, pure_eq_ok_iff]
  constructor
  · rintro ⟨b, hb, ⟨⟩, hunique, _, hd, ⟨⟩, hunique', rfl⟩
    exact ⟨b, hb, hunique, hd, hunique'⟩
  · rintro ⟨b, hb, hunique, hd, hunique'⟩
    exact ⟨b, hb, (), hunique, d, hd, (), hunique', rfl⟩

theorem compose_eq_ok_iff {registry : Registry} {settings : Settings} {name : String}
    {decl : Declaration} {c : Composition} :
    decl.compose registry settings name = .ok c ↔
      ∃ resolution contributed customized,
        Stages registry settings name decl resolution contributed customized c := by
  rw [Declaration.compose]
  by_cases hmetrics : decl.metrics = []
  · simp only [hmetrics, List.isEmpty_nil, if_true, reduceCtorEq, false_iff]
    rintro ⟨_, _, _, hstages⟩
    exact hstages.declared hmetrics
  · rw [if_neg (by simpa using hmetrics)]
    simp only [bind_eq_ok_iff, Declaration.assembly_eq_ok_iff]
    constructor
    · rintro ⟨resolution, hresolved, customized, ⟨contributed, hassembled, hunique, hrevised,
        hunique'⟩, hrendered⟩
      exact ⟨resolution, contributed, customized,
        ⟨hmetrics, hresolved, hassembled, hunique, hrevised, hunique', hrendered⟩⟩
    · rintro ⟨resolution, contributed, customized, hstages⟩
      exact ⟨resolution, hstages.resolved, customized,
        ⟨contributed, hstages.assembled, hstages.contributedUnique, hstages.revised,
          hstages.customizedUnique⟩, hstages.rendered⟩

end MeasuredJob
