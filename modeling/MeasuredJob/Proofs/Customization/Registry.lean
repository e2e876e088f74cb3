import MeasuredJob.Proofs.Customization.Wrapping
import MeasuredJob.Proofs.Plugin.Registered

/-!
# Registries whose addons only wrap

The built-in addons only wrap: the profiler by its own wrapper, the others not at all.  So does
every registry that extends them by addons of the same kind.
-/

namespace MeasuredJob

/-- Whatever options the addon is given, it only wraps. -/
def Plugin.OnlyWraps (plugin : Plugin Addon) : Prop :=
  ∀ bag addon, plugin.use bag = .ok addon → ∃ w : Wrapper, w.Describes addon

def Registry.OnlyWraps (registry : Registry) : Prop :=
  ∀ identifier plugin, registry.lookup identifier = some (.addon plugin) → plugin.OnlyWraps

theorem Plugin.onlyWraps_of_state {plugin : Plugin Addon}
    (h : ∀ state, ∃ w : Wrapper, w.Describes {
      identifier := plugin.descriptor.identifier
      options := plugin.options state
      behaviour := plugin.behaviour state }) : plugin.OnlyWraps := by
  intro bag addon huse
  obtain ⟨state, -, -, rfl⟩ := use_eq_ok_iff.mp huse
  exact h state

/-- An addon that neither wraps nor edits anything. -/
theorem Wrapper.describes_of_id {addon : Configured Addon} (hscoped : addon.behaviour.IsScoped)
    (hwrap : addon.behaviour.wrap = id) : (plain fun _ => none).Describes addon :=
  ⟨hscoped, fun container => by rw [hwrap]; rfl⟩

theorem Companion.onlyWraps : Companion.plugin.OnlyWraps :=
  Plugin.onlyWraps_of_state fun _ => ⟨_, Wrapper.describes_of_id (fun _ _ => rfl) rfl⟩

theorem Profiler.onlyWraps : Profiler.plugin.OnlyWraps :=
  Plugin.onlyWraps_of_state fun options => ⟨.profiler options, rfl, rfl⟩

theorem Mount.onlyWraps (kind : Mount.Kind) : (Mount.plugin kind).OnlyWraps :=
  Plugin.onlyWraps_of_state fun _ => ⟨_, Wrapper.describes_of_id (fun _ _ => rfl) rfl⟩

namespace Registry

theorem onlyWraps_extend {registry : Registry} {plugins : List AnyPlugin} (h : registry.OnlyWraps)
    (hplugins : ∀ p, AnyPlugin.addon p ∈ plugins → p.OnlyWraps) :
    (Builtin.extend registry plugins).OnlyWraps := by
  intro identifier p hlookup
  rcases mem_of_lookup_extend hlookup with hmem | hbefore
  · exact hplugins p hmem
  · exact h identifier p hbefore

/-- The built-in addons only wrap. -/
theorem onlyWraps_builtin : Builtin.registry.OnlyWraps := by
  intro identifier p hlookup
  have hmem := Builtin.mem_of_lookup hlookup
  simp only [Builtin.plugins, List.mem_cons, reduceCtorEq, AnyPlugin.addon.injEq, false_or,
    List.not_mem_nil, or_false] at hmem
  rcases hmem with rfl | rfl | rfl | rfl | rfl | rfl | rfl
  · exact Companion.onlyWraps
  · exact Profiler.onlyWraps
  all_goals exact Mount.onlyWraps _

theorem OnlyWraps.exists_describes {registry : Registry} (h : registry.OnlyWraps)
    {use : PluginUse} {addon : Configured Addon} (huse : registry.useAddon use = .ok addon) :
    ∃ w : Wrapper, w.Describes addon := by
  obtain ⟨plugin, hlookup, hplugin⟩ := useAddon_eq_ok_iff.mp huse
  exact h _ plugin hlookup _ _ hplugin

/-- All addons of a resolved declaration only wrap. -/
theorem OnlyWraps.describes_of_resolveAll {registry : Registry} (h : registry.OnlyWraps)
    {decl : Declaration} {resolution : Resolution}
    (hresolved : registry.resolveAll decl = .ok resolution) :
    ∀ addon ∈ resolution.addons, ∃ w : Wrapper, w.Describes addon := by
  intro addon haddon
  obtain ⟨use, -, huse⟩ :=
    Success.exists_of_mem_right (resolveAll_eq_ok_iff.mp hresolved).2 haddon
  exact h.exists_describes huse

/-- The addons of a resolved declaration, with what their wraps do. -/
theorem exists_wrappingAddons {registry : Registry} (h : registry.OnlyWraps) {decl : Declaration}
    {resolution : Resolution} (hresolved : registry.resolveAll decl = .ok resolution) :
    ∃ as : List WrappingAddon, as.map WrappingAddon.addon = resolution.addons := by
  have haddons := (resolveAll_eq_ok_iff.mp hresolved).2
  generalize resolution.addons = addons at haddons
  generalize decl.addons = uses at haddons
  induction haddons with
  | nil => exact ⟨[], rfl⟩
  | cons huse _ ih =>
    obtain ⟨as, rfl⟩ := ih
    obtain ⟨w, hw⟩ := h.exists_describes huse
    exact ⟨⟨_, w, hw⟩ :: as, rfl⟩

end Registry
end MeasuredJob
