import MeasuredJob.Proofs.Failure
import MeasuredJob.Proofs.Plugin.Registered

/-!
# Refused declarations of plugins

Before any plugin contributes, every declared one is found, configured and checked.  What may go
wrong with a plugin of the library is that there is none of that name or kind, that an option cannot
be read, or that the options do not pass the check of the plugin.  Each of these errors names the
plugin as it was declared.
-/

namespace MeasuredJob

open Failure

/-- The errors of a plugin that is declared under the identifier. -/
inductive Error.OfUse (identifier : String) : Error → Prop where
  | unknownPlugin : OfUse identifier (.unknownPlugin identifier)
  | wrongKind (expected actual : PluginKind) : OfUse identifier (.wrongKind identifier expected actual)
  | invalidOption (field reason : String) : OfUse identifier (.invalidOption identifier field reason)
  | validation (field reason : String) : OfUse identifier (.validation identifier field reason)

/-! ## Plugins -/

theorem Plugin.use_eq_error_iff {α : Type} {plugin : Plugin α} {bag : OptionBag} {e : Error} :
    plugin.use bag = .error e ↔
      (plugin.configure bag plugin.fresh).2 = some e ∨
        (plugin.configure bag plugin.fresh).2 = none ∧
          plugin.validate (plugin.configure bag plugin.fresh).1 = some e := by
  simp only [use, ↓check_bind_eq_error_iff, pure_ne_error, and_false, or_false]

/-- The plugin refuses options in its own name. -/
def Plugin.RefusesAsItself {α : Type} (plugin : Plugin α) : Prop :=
  ∀ bag e, plugin.use bag = .error e → e.OfUse plugin.descriptor.identifier

/-- Where only the check of the options may refuse them. -/
theorem Plugin.refusesAsItself_of_validate {α : Type} {plugin : Plugin α}
    (hconfigure : ∀ bag state, (plugin.configure bag state).2 = none)
    (hvalidate : ∀ state e, plugin.validate state = some e → e.OfUse plugin.descriptor.identifier) :
    plugin.RefusesAsItself := by
  intro bag e h
  rcases use_eq_error_iff.mp h with hfault | ⟨-, hinvalid⟩
  · rw [hconfigure] at hfault
    cases hfault
  · exact hvalidate _ e hinvalid

/-- One condition of a check, in front of others. -/
theorem Error.OfUse.of_condition {identifier field reason : String} {p : Prop} [Decidable p]
    {others : Option Error} (h : ∀ e, others = some e → e.OfUse identifier) :
    ∀ e, (if p then some (.validation identifier field reason) else others) = some e →
      e.OfUse identifier := by
  intro e he
  split at he
  · cases he
    exact .validation field reason
  · exact h e he

theorem Error.OfUse.of_none {identifier : String} :
    ∀ e, (none : Option Error) = some e → e.OfUse identifier := by
  intro e he
  cases he

theorem Workload.refusesAsItself (workload : Workload) : workload.plugin.RefusesAsItself := by
  refine Plugin.refusesAsItself_of_validate (fun _ _ => rfl) fun options => ?_
  dsimp only [plugin, validate]
  exact Error.OfUse.of_condition Error.OfUse.of_none

theorem Sampler.refusesAsItself : Sampler.plugin.RefusesAsItself := by
  have hint : ∀ bag key default e, OptionBag.intOr bag identifier key default = .error e →
      e.OfUse identifier := by
    intro bag key default e h
    rw [OptionBag.intOr] at h
    split at h
    · cases h
    · cases h
    · split at h
      · cases h
      · cases h
        exact .invalidOption _ _
  intro bag e h
  rcases Plugin.use_eq_error_iff.mp h with hfault | ⟨-, hinvalid⟩
  · change (configure bag {}).2 = some e at hfault
    rw [configure] at hfault
    split at hfault
    · rename_i hrate
      cases hfault
      exact hint _ _ _ _ hrate
    · split at hfault
      · rename_i hcompletions
        cases hfault
        exact hint _ _ _ _ hcompletions
      · cases hfault
  · exact Error.OfUse.of_condition (Error.OfUse.of_condition Error.OfUse.of_none) e hinvalid

theorem Companion.refusesAsItself : Companion.plugin.RefusesAsItself := by
  refine Plugin.refusesAsItself_of_validate (fun _ _ => rfl) fun options => ?_
  dsimp only [plugin, validate]
  exact Error.OfUse.of_condition <| Error.OfUse.of_condition <|
    Error.OfUse.of_condition Error.OfUse.of_none

theorem Profiler.refusesAsItself : Profiler.plugin.RefusesAsItself := by
  refine Plugin.refusesAsItself_of_validate (fun _ _ => rfl) fun options => ?_
  dsimp only [plugin, validate]
  exact Error.OfUse.of_condition <| Error.OfUse.of_condition <|
    Error.OfUse.of_condition Error.OfUse.of_none

theorem Mount.refusesAsItself (kind : Kind) : (Mount.plugin kind).RefusesAsItself := by
  have hreference : ∀ options e, validateReference kind options = some e →
      e.OfUse kind.identifier := by
    intro options
    unfold validateReference
    split
    · exact Error.OfUse.of_none
    · exact Error.OfUse.of_condition Error.OfUse.of_none
  refine Plugin.refusesAsItself_of_validate (fun _ _ => rfl) fun options => ?_
  dsimp only [plugin, validate]
  exact Error.OfUse.of_condition <| Error.OfUse.of_condition <| hreference options

/-! ## The library -/

def AnyPlugin.RefusesAsItself : AnyPlugin → Prop
  | .metric plugin => plugin.RefusesAsItself
  | .addon plugin => plugin.RefusesAsItself

theorem Builtin.refusesAsItself {plugin : AnyPlugin} (h : plugin ∈ Builtin.plugins) :
    plugin.RefusesAsItself := by
  simp only [Builtin.plugins, List.mem_cons, List.not_mem_nil, or_false] at h
  rcases h with rfl | rfl | rfl | rfl | rfl | rfl | rfl | rfl | rfl | rfl
  · exact Workload.pennant.refusesAsItself
  · exact Workload.lammps.refusesAsItself
  · exact Sampler.refusesAsItself
  · exact Companion.refusesAsItself
  · exact Profiler.refusesAsItself
  all_goals exact Mount.refusesAsItself _

theorem Builtin.ofUse_of_useMetric {use : PluginUse} {e : Error}
    (h : Builtin.registry.useMetric use = .error e) : e.OfUse use.name := by
  rw [Registry.useMetric] at h
  split at h
  · cases h
    exact .unknownPlugin
  · rename_i plugin hlookup
    have hrefuses : plugin.RefusesAsItself := Builtin.refusesAsItself (Builtin.mem_of_lookup hlookup)
    exact Registry.identifier_of_lookup hlookup ▸ hrefuses use.bag e h
  · cases h
    exact .wrongKind _ _

theorem Builtin.ofUse_of_useAddon {use : PluginUse} {e : Error}
    (h : Builtin.registry.useAddon use = .error e) : e.OfUse use.name := by
  rw [Registry.useAddon] at h
  split at h
  · cases h
    exact .unknownPlugin
  · rename_i plugin hlookup
    have hrefuses : plugin.RefusesAsItself := Builtin.refusesAsItself (Builtin.mem_of_lookup hlookup)
    exact Registry.identifier_of_lookup hlookup ▸ hrefuses use.bag e h
  · cases h
    exact .wrongKind _ _

/-- Resolving fails for one of the declared plugins. -/
theorem Builtin.exists_of_resolveAll_eq_error {decl : Declaration} {e : Error}
    (h : Builtin.registry.resolveAll decl = .error e) :
    ∃ use ∈ decl.metrics ++ decl.addons, e.OfUse use.name := by
  simp only [Registry.resolveAll, bind_eq_error_iff, pure_ne_error, and_false, exists_false,
    or_false] at h
  rcases h with hmetrics | ⟨metrics, -, haddons⟩
  · obtain ⟨use, huse, herror⟩ := exists_of_mapM_eq_error hmetrics
    exact ⟨use, List.mem_append_left _ huse, ofUse_of_useMetric herror⟩
  · obtain ⟨use, huse, herror⟩ := exists_of_mapM_eq_error haddons
    exact ⟨use, List.mem_append_right _ huse, ofUse_of_useAddon herror⟩

end MeasuredJob
