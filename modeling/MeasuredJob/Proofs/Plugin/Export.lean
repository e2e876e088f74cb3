import MeasuredJob.Proofs.Options.ReadBack
import MeasuredJob.Proofs.Plugin.Registered

/-!
# Exported options

A plugin exports its options in the form in which it takes them.  For every built-in plugin the
export configures a fresh instance to the same state, whatever bag the state came from: texts given
as integers, flags in any spelling and absent keys are exported in one normal form, which reads as
itself.  A plugin with this property can be used again with what it exported.
-/

namespace MeasuredJob

/-- Used with the options that it has exported, the plugin is configured the same way. -/
def Plugin.Replays {α : Type} (plugin : Plugin α) : Prop :=
  ∀ bag configured, plugin.use bag = .ok configured →
    plugin.use configured.options = .ok configured

theorem Plugin.replays_of_configure {α : Type} {plugin : Plugin α}
    (h : ∀ bag state, plugin.configure bag plugin.fresh = (state, none) →
      plugin.configure (plugin.options state) plugin.fresh = (state, none)) :
    plugin.Replays := by
  intro bag configured huse
  obtain ⟨state, hconfigure, hvalid, rfl⟩ := Plugin.use_eq_ok_iff.mp huse
  exact Plugin.use_eq_ok_iff.mpr ⟨state, h bag state hconfigure, hvalid, rfl⟩

def AnyPlugin.Replays : AnyPlugin → Prop
  | .metric plugin => plugin.Replays
  | .addon plugin => plugin.Replays

/-! ## The options of each plugin -/

theorem Workload.readOptions_write (workload : Workload) (options : Options) :
    workload.readOptions options.write = options := by
  simp [readOptions, Options.write]

theorem Sampler.configure_write (options start : Options) :
    configure options.write start = (options, none) := by
  have hrate : options.write.intOr identifier "rate" 10 = .ok options.rate := by
    simp [Options.write, OptionBag.intOr_setText_of_ne, OptionBag.intOr_setFlag_of_ne]
  have hcompletions : options.write.intOr identifier "completions" 0 = .ok options.completions := by
    simp [Options.write, OptionBag.intOr_setText_of_ne, OptionBag.intOr_setFlag_of_ne]
  have hrest : options.write.flag "threads" = options.threads ∧
      options.write.textOr "image" defaultImage = options.image := by
    simp [Options.write]
  simp only [configure, hrate, hcompletions, hrest]

@[simp] theorem Scope.read_write (scope : Scope) (bag : OptionBag) :
    Scope.read (scope.write bag) = scope := by
  simp [Scope.read, Scope.write]

@[simp] theorem Scope.textOr_write_of_ne {key : String} (htarget : key ≠ "target")
    (hcontainer : key ≠ "containerTarget") (scope : Scope) (bag : OptionBag) (default : String) :
    (scope.write bag).textOr key default = bag.textOr key default := by
  simp [Scope.write, htarget, hcontainer]

@[simp] theorem Scope.flag_write_of_ne {key : String} (htarget : key ≠ "target")
    (hcontainer : key ≠ "containerTarget") (scope : Scope) (bag : OptionBag) :
    (scope.write bag).flag key = bag.flag key := by
  simp [Scope.write, htarget, hcontainer]

@[simp] theorem Scope.valueMap_write (scope : Scope) (bag : OptionBag) (key : String) :
    (scope.write bag).valueMap key = bag.valueMap key := rfl

theorem Companion.readOptions_write (options : Options) : readOptions options.write = options := by
  simp [readOptions, Options.write]

theorem Profiler.readOptions_write (options : Options) : readOptions options.write = options := by
  simp [readOptions, Options.write]

/-- The options of a kind without a reference or without items do not set them. -/
theorem Mount.readOptions_write {kind : Kind} {options : Options}
    (hreference : kind.referenceKey? = none → options.reference = "")
    (hitems : kind.itemsKey? = none → options.items = ∅) :
    readOptions kind (writeOptions kind options) = options := by
  obtain ⟨name, path, readOnly, declareOnly, reference, items⟩ := options
  cases kind with
  | configMap =>
    simp only [readOptions, writeOptions, Kind.referenceKey?, Kind.itemsKey?]
    rw [OptionBag.textMap_exportTextMap_self "items" rfl]
    simp
  | secret | persistentVolumeClaim | hostPath =>
    have hnone : items = ∅ := hitems rfl
    simp [readOptions, writeOptions, Kind.referenceKey?, Kind.itemsKey?, hnone]
  | emptyDir =>
    have hnone : items = ∅ := hitems rfl
    have hempty : reference = "" := hreference rfl
    simp [readOptions, writeOptions, Kind.referenceKey?, Kind.itemsKey?, hnone, hempty]

/-! ## The built-in plugins -/

theorem Workload.replays (workload : Workload) : workload.plugin.Replays := by
  refine Plugin.replays_of_configure fun bag state _ => ?_
  exact Prod.ext (workload.readOptions_write state) rfl

theorem Sampler.replays : Sampler.plugin.Replays :=
  Plugin.replays_of_configure fun _ state _ => configure_write state _

theorem Companion.replays : Companion.plugin.Replays :=
  Plugin.replays_of_configure fun _ state _ => Prod.ext (readOptions_write state) rfl

theorem Profiler.replays : Profiler.plugin.Replays :=
  Plugin.replays_of_configure fun _ state _ => Prod.ext (readOptions_write state) rfl

theorem Mount.replays (kind : Kind) : (Mount.plugin kind).Replays := by
  refine Plugin.replays_of_configure fun bag state hstate => ?_
  obtain rfl : readOptions kind bag = state := congrArg Prod.fst hstate
  refine Prod.ext (readOptions_write (fun hnone => ?_) fun hnone => ?_) rfl
  · rw [readOptions, hnone]
  · rw [readOptions, hnone]

theorem Builtin.replays {plugin : AnyPlugin} (h : plugin ∈ Builtin.plugins) : plugin.Replays := by
  simp only [Builtin.plugins, List.mem_cons, List.not_mem_nil, or_false] at h
  rcases h with rfl | rfl | rfl | rfl | rfl | rfl | rfl | rfl | rfl | rfl
  · exact Workload.pennant.replays
  · exact Workload.lammps.replays
  · exact Sampler.replays
  · exact Companion.replays
  · exact Profiler.replays
  all_goals exact Mount.replays _

/-! ## Registries -/

def Registry.Replays (registry : Registry) : Prop :=
  ∀ identifier plugin, registry.lookup identifier = some plugin → plugin.Replays

theorem Registry.replays_builtin : Builtin.registry.Replays :=
  fun _ _ hlookup => Builtin.replays (Builtin.mem_of_lookup hlookup)

namespace Registry

variable {registry : Registry} {use : PluginUse}

/-- Declared with what it exported, a metric is configured the same way. -/
theorem useMetric_replay (h : registry.Replays) {metric : Configured Metric}
    (huse : registry.useMetric use = .ok metric) :
    registry.useMetric { name := metric.identifier, bag := metric.options } = .ok metric := by
  obtain ⟨plugin, hlookup, hplugin⟩ := useMetric_eq_ok_iff.mp huse
  rw [useMetric_eq_ok_iff, identifier_of_useMetric huse]
  exact ⟨plugin, hlookup, h _ _ hlookup _ _ hplugin⟩

/-- Declared with what it exported, an addon is configured the same way. -/
theorem useAddon_replay (h : registry.Replays) {addon : Configured Addon}
    (huse : registry.useAddon use = .ok addon) :
    registry.useAddon { name := addon.identifier, bag := addon.options } = .ok addon := by
  obtain ⟨plugin, hlookup, hplugin⟩ := useAddon_eq_ok_iff.mp huse
  rw [useAddon_eq_ok_iff, identifier_of_useAddon huse]
  exact ⟨plugin, hlookup, h _ _ hlookup _ _ hplugin⟩

end Registry
end MeasuredJob
