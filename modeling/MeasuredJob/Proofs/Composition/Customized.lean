import MeasuredJob.Proofs.Composition.Names
import MeasuredJob.Proofs.Composition.Stages
import MeasuredJob.Proofs.Customization.Order
import MeasuredJob.Proofs.Customization.Registry

/-!
# Customized containers of a composition

When all addons of a registry only wrap, the containers of a composition are those of the first
phase in their order, and each shows in closed form what every addon of the declaration did to it.
-/

namespace MeasuredJob

/-- Addons that only wrap take every container through the second phase by itself. -/
theorem Stages.specs_eq_map_visitAll {registry : Registry} {settings : Settings} {name : String}
    {decl : Declaration} {resolution : Resolution} {contributed customized : Assembly}
    {c : Composition} (hwraps : registry.OnlyWraps)
    (h : Stages registry settings name decl resolution contributed customized c) :
    c.containers.map ComposedContainer.spec =
      contributed.containers.map (visitAll contributed.groups resolution.addons) := by
  have hcustomized := Assembly.customize_eq_ok (hwraps.describes_of_resolveAll h.resolved)
    (Assembly.nodup_groups_assemble h.assembled) (Assembly.placed_assemble h.assembled)
  obtain rfl := Except.ok.inj (h.revised.symm.trans hcustomized)
  exact h.specs_eq

theorem Stages.exists_customized_of_mem {registry : Registry} {settings : Settings} {name : String}
    {decl : Declaration} {resolution : Resolution} {contributed customized : Assembly}
    {c : Composition} (h : Stages registry settings name decl resolution contributed customized c)
    (hwraps : registry.OnlyWraps) {start : Container} (hstart : start ∈ contributed.containers) :
    ∃ k ∈ c.containers, ∃ fragments words privileged,
      k.spec = start.customized fragments words privileged := by
  have hspec : visitAll contributed.groups resolution.addons start ∈
      c.containers.map ComposedContainer.spec := by
    rw [h.specs_eq_map_visitAll hwraps]
    exact List.mem_map_of_mem hstart
  obtain ⟨k, hk, hvisited⟩ := List.mem_map.mp hspec
  obtain ⟨fragments, words, privileged, hvisit⟩ :=
    exists_visitAll_eq (hwraps.describes_of_resolveAll h.resolved) contributed.groups start
  exact ⟨k, hk, fragments, words, privileged, hvisited.trans hvisit⟩

/-- The containers of a composition are those of the first phase in their order, each with the
additions of the addons. -/
theorem Stages.forall₂_customizes {registry : Registry} {settings : Settings} {name : String}
    {decl : Declaration} {resolution : Resolution} {contributed customized : Assembly}
    {c : Composition} (hwraps : registry.OnlyWraps)
    (h : Stages registry settings name decl resolution contributed customized c) :
    ∃ as, as.map WrappingAddon.addon = resolution.addons ∧
      List.Forall₂ (fun start k => WrappingAddon.Customizes as contributed.groups start k.spec)
        contributed.containers c.containers := by
  obtain ⟨as, has⟩ := Registry.exists_wrappingAddons hwraps h.resolved
  refine ⟨as, has, ?_⟩
  rw [← List.forall₂_map_right_iff, h.specs_eq_map_visitAll hwraps, List.forall₂_map_right_iff,
    List.forall₂_same]
  intro start hstart
  have hplaced := Assembly.placed_assemble h.assembled start hstart
  have hvisit : visitAll contributed.groups resolution.addons start =
      as.foldl (fun c a => a.visit contributed.groups c) start := by
    rw [← has, visitAll, List.foldl_map]
    rfl
  rw [hvisit]
  exact WrappingAddon.customizes_foldl_visit as (Assembly.exists_findGroup?_of_hasGroup hplaced)

/-- Every container of a composition comes from one of the first phase. -/
theorem Stages.exists_customizes {registry : Registry} {settings : Settings} {name : String}
    {decl : Declaration} {resolution : Resolution} {contributed customized : Assembly}
    {c : Composition} (hwraps : registry.OnlyWraps)
    (h : Stages registry settings name decl resolution contributed customized c)
    {k : ComposedContainer} (hk : k ∈ c.containers) :
    ∃ as start, as.map WrappingAddon.addon = resolution.addons ∧ start ∈ contributed.containers ∧
      WrappingAddon.Customizes as contributed.groups start k.spec := by
  obtain ⟨as, has, hall⟩ := h.forall₂_customizes hwraps
  obtain ⟨start, hstart, hcustomizes⟩ := Success.exists_of_mem_right hall hk
  exact ⟨as, start, has, hstart, hcustomizes⟩

/-- The second phase in closed form. -/
theorem customizes_of_compose {registry : Registry} {settings : Settings} {name : String}
    {decl : Declaration} {c : Composition} (hwraps : registry.OnlyWraps)
    (h : decl.compose registry settings name = .ok c) :
    ∃ resolution contributed as, registry.resolveAll decl = .ok resolution ∧
      Assembly.assemble (decl.context name settings) resolution = .ok contributed ∧
      as.map WrappingAddon.addon = resolution.addons ∧
      c.jobGroups = contributed.groups ∧
      List.Forall₂ (WrappingAddon.Customizes as contributed.groups) contributed.containers
        (c.containers.map ComposedContainer.spec) := by
  obtain ⟨resolution, contributed, customized, hstages⟩ := compose_eq_ok_iff.mp h
  obtain ⟨as, has⟩ := Registry.exists_wrappingAddons hwraps hstages.resolved
  refine ⟨resolution, contributed, as, hstages.resolved, hstages.assembled, has,
    hstages.jobGroups_eq, ?_⟩
  have hnames := Assembly.nodup_groups_assemble hstages.assembled
  have hcustomized : customized.containers = contributed.containers.map fun start =>
      as.foldl (fun k a => a.visit contributed.groups k) start := by
    refine Assembly.containers_customize hnames ?_
    rw [has]
    exact hstages.revised
  rw [hstages.specs_eq, hcustomized, List.forall₂_map_right_iff, List.forall₂_same]
  intro start hstart
  -- A container is rendered in a group that is there, and no addon has moved it.
  have hfinal : as.foldl (fun k a => a.visit contributed.groups k) start ∈
      c.containers.map ComposedContainer.spec := by
    rw [hstages.specs_eq, hcustomized]
    exact List.mem_map_of_mem hstart
  obtain ⟨k, hk, hspec⟩ := List.mem_map.mp hfinal
  obtain ⟨group, hgroup, -⟩ := (hstages.renders_of_mem hk).script
  rw [hspec, WrappingAddon.jobGroup_foldl_visit, hstages.jobGroups_eq] at hgroup
  exact WrappingAddon.customizes_foldl_visit as ⟨group, hgroup⟩

namespace Sample

/-- The built-in plugins with one more metric, and with one more addon that only wraps. -/
def wrapping : Registry :=
  Builtin.extend Builtin.registry [.metric work, .addon tracer]

/-- One addon twice, for one job group and for all. -/
def traced : Declaration := {
  metrics := [{ name := "work" }]
  addons := [{ name := "tracer", bag := target "b" }, { name := "tracer" }] }

end Sample

theorem Sample.onlyWraps_wrapping : Sample.wrapping.OnlyWraps := by
  refine Registry.onlyWraps_extend Registry.onlyWraps_builtin fun p hp => ?_
  have htracer : p = Sample.tracer := by
    simpa using hp
  rw [htracer]
  refine Plugin.onlyWraps_of_state fun _ => ⟨.plain fun container =>
    some ("trace " ++ container.name, ""), fun _ _ => rfl, fun _ => rfl⟩

/-- Containers that one tracer or two have wrapped. -/
theorem customizes_of_traced :
    ∃ c, Sample.traced.compose Sample.wrapping {} "set" = .ok c ∧
      ∃ resolution contributed as, Sample.wrapping.resolveAll Sample.traced = .ok resolution ∧
        Assembly.assemble (Sample.traced.context "set" {}) resolution = .ok contributed ∧
        as.map WrappingAddon.addon = resolution.addons ∧
        c.jobGroups = contributed.groups ∧
        List.Forall₂ (WrappingAddon.Customizes as contributed.groups) contributed.containers
          (c.containers.map ComposedContainer.spec) := by
  obtain ⟨c, h⟩ : ∃ c, Sample.traced.compose Sample.wrapping {} "set" = .ok c :=
    Success.exists_of_isOk (by decide +kernel)
  exact ⟨c, h, customizes_of_compose Sample.onlyWraps_wrapping h⟩

end MeasuredJob
