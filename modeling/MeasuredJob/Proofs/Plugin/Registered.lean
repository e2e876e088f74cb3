import MeasuredJob.Plugin.Builtin
import MeasuredJob.Proofs.Success
import MeasuredJob.Resolution

/-!
# Registered plugins

What a look-up finds in a registry, and what it means for the plugins that come with the library.
A property of every plugin of a registry is proved for the plugins that were added to it.
-/

namespace MeasuredJob

open Success

/-! ## Look-ups -/

namespace Registry

theorem identifier_of_lookup {registry : Registry} {identifier : String} {plugin : AnyPlugin}
    (h : registry.lookup identifier = some plugin) : plugin.identifier = identifier :=
  (registry.keyed _ (Table.get?_eq_some_iff.mp h)).symm

theorem contains_eq_true_iff {registry : Registry} {identifier : String} :
    registry.contains identifier = true ↔ ∃ found, registry.lookup identifier = some found :=
  Option.isSome_iff_exists

theorem register_eq_error_iff {registry : Registry} {plugin : AnyPlugin} {error : Error} :
    registry.register plugin = .error error ↔
      registry.contains plugin.identifier = true ∧ error = .duplicatePlugin plugin.identifier := by
  rw [register, contains]
  split
  · rename_i htaken
    rw [Except.error.injEq, eq_comm]
    exact (and_iff_right htaken).symm
  · rename_i hfree
    exact iff_of_false nofun fun h => hfree h.1

theorem lookup_register {registry extended : Registry} {plugin : AnyPlugin}
    (h : registry.register plugin = .ok extended) (identifier : String) :
    extended.lookup identifier = (registry.lookup identifier).or
      (if plugin.identifier = identifier then some plugin else none) := by
  rw [register] at h
  split at h
  · cases h
  · rename_i hfree
    cases h
    rw [lookup, Table.get?_insert]
    by_cases hid : plugin.identifier = identifier
    · have hnone : registry.lookup identifier = none := by
        rw [← hid]
        exact Option.not_isSome_iff_eq_none.mp hfree
      rw [if_pos hid.symm, if_pos hid, hnone, Option.none_or]
    · rw [if_neg (Ne.symm hid), if_neg hid, Option.or_none]
      rfl

/-- Of the plugins of one identifier the first one is found, however many are added. -/
theorem lookup_extend (registry : Registry) (plugins : List AnyPlugin) (identifier : String) :
    (Builtin.extend registry plugins).lookup identifier =
      (registry.lookup identifier).or (plugins.find? (·.identifier == identifier)) := by
  induction plugins generalizing registry with
  | nil => exact (Option.or_none ..).symm
  | cons plugin plugins ih =>
    rw [Builtin.extend, List.foldl_cons, ← Builtin.extend, ih]
    by_cases hid : plugin.identifier = identifier
    · have hfind : (plugin :: plugins).find? (·.identifier == identifier) = some plugin :=
        List.find?_cons_of_pos (by simpa using hid)
      rw [hfind]
      cases hregister : registry.register plugin with
      | ok extended =>
        simp only [lookup_register hregister, if_pos hid, Option.or_assoc, Option.some_or]
      | error error =>
        obtain ⟨found, hfound⟩ := contains_eq_true_iff.mp (register_eq_error_iff.mp hregister).1
        rw [hid] at hfound
        simp only [hfound, Option.some_or]
    · have hfind : (plugin :: plugins).find? (·.identifier == identifier) =
          plugins.find? (·.identifier == identifier) :=
        List.find?_cons_of_neg (by simpa using hid)
      rw [hfind]
      cases hregister : registry.register plugin with
      | ok extended => simp only [lookup_register hregister, if_neg hid, Option.or_none]
      | error error => rfl

theorem mem_of_lookup_extend {registry : Registry} {plugins : List AnyPlugin} {found : AnyPlugin}
    {identifier : String} (h : (Builtin.extend registry plugins).lookup identifier = some found) :
    found ∈ plugins ∨ registry.lookup identifier = some found := by
  rw [lookup_extend] at h
  rcases Option.or_eq_some_iff.mp h with hbefore | ⟨-, hfind⟩
  · exact .inr hbefore
  · exact .inl (List.mem_of_find?_eq_some hfind)

end Registry

theorem Builtin.mem_of_lookup {identifier : String} {found : AnyPlugin}
    (h : Builtin.registry.lookup identifier = some found) : found ∈ Builtin.plugins := by
  rcases Registry.mem_of_lookup_extend h with hmem | hnone
  · exact hmem
  · cases hnone

/-! ## Uses -/

theorem Plugin.use_eq_ok_iff {α : Type} {plugin : Plugin α} {bag : OptionBag}
    {configured : Configured α} :
    plugin.use bag = .ok configured ↔ ∃ state,
      plugin.configure bag plugin.fresh = (state, none) ∧ plugin.validate state = none ∧
        configured = {
          identifier := plugin.descriptor.identifier
          options := plugin.options state
          behaviour := plugin.behaviour state } := by
  simp only [use, ↓check_bind_eq_ok_iff, pure_eq_ok_iff]
  constructor
  · rintro ⟨hfault, hvalid, rfl⟩
    exact ⟨_, Prod.ext rfl hfault, hvalid, rfl⟩
  · rintro ⟨state, hconfigure, hvalid, rfl⟩
    have hstate : (plugin.configure bag plugin.fresh).1 = state := congrArg Prod.fst hconfigure
    subst hstate
    exact ⟨congrArg Prod.snd hconfigure, hvalid, rfl⟩

namespace Registry

variable {registry : Registry} {use : PluginUse}

theorem useMetric_eq_ok_iff {metric : Configured Metric} :
    registry.useMetric use = .ok metric ↔
      ∃ plugin, registry.lookup use.name = some (.metric plugin) ∧
        plugin.use use.bag = .ok metric := by
  rw [useMetric]
  split <;> rename_i hlookup <;> simp [hlookup]

theorem useAddon_eq_ok_iff {addon : Configured Addon} :
    registry.useAddon use = .ok addon ↔
      ∃ plugin, registry.lookup use.name = some (.addon plugin) ∧
        plugin.use use.bag = .ok addon := by
  rw [useAddon]
  split <;> rename_i hlookup <;> simp [hlookup]

theorem identifier_of_useMetric {metric : Configured Metric}
    (h : registry.useMetric use = .ok metric) : metric.identifier = use.name := by
  obtain ⟨plugin, hlookup, huse⟩ := useMetric_eq_ok_iff.mp h
  obtain ⟨state, -, -, rfl⟩ := Plugin.use_eq_ok_iff.mp huse
  exact identifier_of_lookup hlookup

theorem identifier_of_useAddon {addon : Configured Addon}
    (h : registry.useAddon use = .ok addon) : addon.identifier = use.name := by
  obtain ⟨plugin, hlookup, huse⟩ := useAddon_eq_ok_iff.mp h
  obtain ⟨state, -, -, rfl⟩ := Plugin.use_eq_ok_iff.mp huse
  exact identifier_of_lookup hlookup

theorem resolveAll_eq_ok_iff {decl : Declaration} {resolution : Resolution} :
    registry.resolveAll decl = .ok resolution ↔
      List.Forall₂ (fun use metric => registry.useMetric use = .ok metric) decl.metrics
        resolution.metrics ∧
      List.Forall₂ (fun use addon => registry.useAddon use = .ok addon) decl.addons
        resolution.addons := by
  simp only [resolveAll, bind_eq_ok_iff, pure_eq_ok_iff, mapM_eq_ok_iff]
  constructor
  · rintro ⟨metrics, hmetrics, addons, haddons, rfl⟩
    exact ⟨hmetrics, haddons⟩
  · rintro ⟨hmetrics, haddons⟩
    exact ⟨_, hmetrics, _, haddons, rfl⟩

/-- One more declared addon is one more configured addon. -/
theorem resolveAll_insertIdx_eq_ok_iff {decl : Declaration} {n : ℕ} (hn : n ≤ decl.addons.length)
    {resolution : Resolution} :
    registry.resolveAll { decl with addons := decl.addons.insertIdx n use } = .ok resolution ↔
      ∃ before addon, registry.resolveAll decl = .ok before ∧ registry.useAddon use = .ok addon ∧
        resolution = { before with addons := before.addons.insertIdx n addon } := by
  simp only [resolveAll_eq_ok_iff, forall₂_insertIdx_left_iff hn]
  constructor
  · rintro ⟨hmetrics, addon, addons, huse, haddons, hinsert⟩
    refine ⟨{ resolution with addons }, addon, ⟨hmetrics, haddons⟩, huse, ?_⟩
    rw [← hinsert]
  · rintro ⟨before, addon, ⟨hmetrics, haddons⟩, huse, rfl⟩
    exact ⟨hmetrics, addon, before.addons, huse, haddons, rfl⟩

end Registry
end MeasuredJob
