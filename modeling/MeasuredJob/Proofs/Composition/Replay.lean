import MeasuredJob.Proofs.Composition.Names
import MeasuredJob.Proofs.Composition.Stages
import MeasuredJob.Proofs.Plugin.Export

/-!
# Replaying a composition

A composition reports its plugins with the options that took effect.  Whoever declares these plugins
again, in place of the ones that were declared, gets the same composition: the report is a
declaration in normal form.
-/

namespace MeasuredJob

open Success

/-- A reported plugin, as it would be declared. -/
def ResolvedUse.use (resolved : ResolvedUse) : PluginUse :=
  { name := resolved.identifier, bag := resolved.options }

/-- The declaration, with the reported plugins in place of its own. -/
def Declaration.redeclare (decl : Declaration) (resolved : List ResolvedUse) : Declaration :=
  { decl with
    metrics := (resolved.filter fun r => r.kind = .metric).map ResolvedUse.use
    addons := (resolved.filter fun r => r.kind = .addon).map ResolvedUse.use }

/-! ## The report -/

theorem Stages.resolved_eq {registry : Registry} {settings : Settings} {name : String}
    {decl : Declaration} {resolution : Resolution} {contributed customized : Assembly}
    {c : Composition}
    (h : Stages registry settings name decl resolution contributed customized c) :
    c.resolved = resolution.uses :=
  Composition.resolved_of_render h.rendered

theorem Registry.identifiers_of_resolveAll {registry : Registry} {decl : Declaration}
    {resolution : Resolution} (h : registry.resolveAll decl = .ok resolution) :
    resolution.uses.map (fun r => (r.kind, r.identifier)) =
      (decl.metrics.map fun u => (.metric, u.name)) ++
        decl.addons.map fun u => (.addon, u.name) := by
  obtain ⟨hmetrics, haddons⟩ := resolveAll_eq_ok_iff.mp h
  have hfirst := map_eq_map_of_forall₂ hmetrics (f := fun use => (PluginKind.metric, use.name))
    (g := fun metric => (PluginKind.metric, metric.identifier))
    fun _ _ huse => by rw [identifier_of_useMetric huse]
  have hsecond := map_eq_map_of_forall₂ haddons (f := fun use => (PluginKind.addon, use.name))
    (g := fun addon => (PluginKind.addon, addon.identifier))
    fun _ _ huse => by rw [identifier_of_useAddon huse]
  rw [hfirst, hsecond, Resolution.uses, List.map_append, List.map_map, List.map_map]
  rfl

theorem Declaration.redeclare_uses (decl : Declaration) (resolution : Resolution) :
    decl.redeclare resolution.uses = { decl with
      metrics := resolution.metrics.map fun m => { name := m.identifier, bag := m.options }
      addons := resolution.addons.map fun a => { name := a.identifier, bag := a.options } } := by
  simp [redeclare, Resolution.uses, List.filter_map, Function.comp_def, ResolvedUse.use]

/-! ## The replay -/

theorem Registry.resolveAll_redeclare {registry : Registry} (hreplays : registry.Replays)
    {decl : Declaration} {resolution : Resolution}
    (h : registry.resolveAll decl = .ok resolution) :
    registry.resolveAll (decl.redeclare resolution.uses) = .ok resolution := by
  obtain ⟨hmetrics, haddons⟩ := resolveAll_eq_ok_iff.mp h
  rw [Declaration.redeclare_uses, resolveAll_eq_ok_iff, List.forall₂_map_left_iff,
    List.forall₂_map_left_iff, List.forall₂_same, List.forall₂_same]
  constructor
  · intro metric hmetric
    obtain ⟨use, -, huse⟩ := exists_of_mem_right hmetrics hmetric
    exact useMetric_replay hreplays huse
  · intro addon haddon
    obtain ⟨use, -, huse⟩ := exists_of_mem_right haddons haddon
    exact useAddon_replay hreplays huse

/-- Where the resolution stays, so does the composition. -/
theorem Stages.redeclare {registry : Registry} (hreplays : registry.Replays) {settings : Settings}
    {name : String} {decl : Declaration} {resolution : Resolution}
    {contributed customized : Assembly} {c : Composition}
    (h : Stages registry settings name decl resolution contributed customized c) :
    Stages registry settings name (decl.redeclare c.resolved) resolution contributed customized c where
  declared := by
    intro hnone
    rw [h.resolved_eq, Declaration.redeclare_uses] at hnone
    have hmetrics := (Registry.resolveAll_eq_ok_iff.mp h.resolved).1
    rw [List.map_eq_nil_iff.mp hnone, List.forall₂_nil_right_iff] at hmetrics
    exact h.declared hmetrics
  resolved := by
    rw [h.resolved_eq]
    exact Registry.resolveAll_redeclare hreplays h.resolved
  assembled := h.assembled
  contributedUnique := h.contributedUnique
  revised := h.revised
  customizedUnique := h.customizedUnique
  rendered := h.rendered

/-- A composition with the built-in plugins reports the declared plugins in their order, and what it
reports composes to it again. -/
theorem replay_of_compose {settings : Settings} {name : String} {decl : Declaration}
    {c : Composition} (h : decl.compose Builtin.registry settings name = .ok c) :
    (c.resolved.map fun r => (r.kind, r.identifier)) =
        (decl.metrics.map fun u => (.metric, u.name)) ++
          (decl.addons.map fun u => (.addon, u.name)) ∧
      (decl.redeclare c.resolved).compose Builtin.registry settings name = .ok c := by
  obtain ⟨resolution, contributed, customized, hstages⟩ := compose_eq_ok_iff.mp h
  constructor
  · rw [hstages.resolved_eq]
    exact Registry.identifiers_of_resolveAll hstages.resolved
  · exact compose_eq_ok_iff.mpr
      ⟨resolution, contributed, customized, hstages.redeclare Registry.replays_builtin⟩

namespace Sample

/-- Built-in plugins with options in other forms than those in which they are exported: a text given
as an integer, flags as an integer and in capitals, and tables of integers and texts. -/
def supported : Declaration := {
  metrics := [{ name := "app-lammps", bag := OptionBag.empty.setInt "command" 7 }]
  addons := [
    { name := "application"
      bag := ((((target "worker").setText "image" "side").setText "command" "serve").setInt
        "privileged" 2).setMap
        "resourceLimits" (Table.ofList [("cpu", .int 2), ("memory", .text "1Gi")]) },
    { name := "volume-cm"
      bag := ((((OptionBag.empty.setText "name" "inputs").setText "path" "/inputs").setText
        "configMapName" "files").setText "readOnly" "YES").setMap
        "items" (Table.ofList [("port", .int 80)]) }] }

end Sample

/-- Options in other forms than those in which they are reported. -/
theorem replay_of_supported :
    ∃ c, Sample.supported.compose Builtin.registry {} "set" = .ok c ∧
      (c.resolved.map fun r => (r.kind, r.identifier)) =
          (Sample.supported.metrics.map fun u => (.metric, u.name)) ++
            (Sample.supported.addons.map fun u => (.addon, u.name)) ∧
        (Sample.supported.redeclare c.resolved).compose Builtin.registry {} "set" = .ok c := by
  have hok : (Sample.supported.compose Builtin.registry {} "set").isOk = true := by
    decide +kernel
  obtain ⟨c, h⟩ := Success.exists_of_isOk hok
  have hreplay := replay_of_compose h
  exact ⟨c, h, hreplay⟩

end MeasuredJob
