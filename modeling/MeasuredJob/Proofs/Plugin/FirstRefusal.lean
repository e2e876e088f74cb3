import MeasuredJob.Proofs.Customization.Offence
import MeasuredJob.Proofs.Plugin.Refusal

/-!
# The first refused declaration

Declared plugins are resolved one after another, the metrics before the addons.  What refuses one of
them depends on the registry and on its own options, and on nothing else in the declaration.  So a
declaration that cannot be resolved fails with the error of the first plugin that is refused,
whatever comes after it.
-/

namespace MeasuredJob

open Success Failure

/-- The declared plugins, with what they are declared as, in the order in which they are resolved. -/
def Declaration.uses (decl : Declaration) : List (PluginKind × PluginUse) :=
  decl.metrics.map (PluginKind.metric, ·) ++ decl.addons.map (PluginKind.addon, ·)

/-! ## Refusals -/

/-- The plugin cannot read the options, or can read them and finds something wrong with them. -/
def Plugin.Rejects {α : Type} (plugin : Plugin α) (bag : OptionBag) (e : Error) : Prop :=
  (plugin.configure bag plugin.fresh).2 = some e ∨
    (plugin.configure bag plugin.fresh).2 = none ∧
      plugin.validate (plugin.configure bag plugin.fresh).1 = some e

/-- A declared plugin cannot be configured: there is none of that name, it is of the other kind, or
it rejects its options. -/
inductive Registry.Refuses (registry : Registry) : PluginKind × PluginUse → Error → Prop where
  | unknown {kind : PluginKind} {use : PluginUse} (hlookup : registry.lookup use.name = none) :
      Refuses registry (kind, use) (.unknownPlugin use.name)
  | wrongKind {kind : PluginKind} {use : PluginUse} {plugin : AnyPlugin}
      (hlookup : registry.lookup use.name = some plugin) (hkind : plugin.kind ≠ kind) :
      Refuses registry (kind, use) (.wrongKind use.name kind plugin.kind)
  | metric {use : PluginUse} {plugin : Plugin Metric} {e : Error}
      (hlookup : registry.lookup use.name = some (.metric plugin)) (h : plugin.Rejects use.bag e) :
      Refuses registry (.metric, use) e
  | addon {use : PluginUse} {plugin : Plugin Addon} {e : Error}
      (hlookup : registry.lookup use.name = some (.addon plugin)) (h : plugin.Rejects use.bag e) :
      Refuses registry (.addon, use) e

/-- The declared plugin at the place `i` is refused with the error, and none before it is refused. -/
def Declaration.FirstRefusal (registry : Registry) (decl : Declaration) (i : ℕ) (e : Error) : Prop :=
  ∃ use, decl.uses[i]? = some use ∧ registry.Refuses use e ∧
    ∀ j < i, ∀ earlier, decl.uses[j]? = some earlier → ∀ e', ¬registry.Refuses earlier e'

namespace Registry

variable {registry : Registry}

theorem refuses_metric_iff {use : PluginUse} {e : Error} :
    registry.Refuses (.metric, use) e ↔ registry.useMetric use = .error e := by
  rw [useMetric]
  constructor
  · intro h
    cases h with
    | unknown hlookup => rw [hlookup]
    | @wrongKind _ _ plugin hlookup hkind =>
      cases plugin with
      | metric => exact absurd rfl hkind
      | addon => rw [hlookup]; rfl
    | metric hlookup h =>
      rw [hlookup]
      exact Plugin.use_eq_error_iff.mpr h
  · intro h
    split at h <;> rename_i hlookup
    · cases h
      exact .unknown hlookup
    · exact .metric hlookup (Plugin.use_eq_error_iff.mp h)
    · cases h
      exact .wrongKind hlookup (by simp [AnyPlugin.kind])

theorem refuses_addon_iff {use : PluginUse} {e : Error} :
    registry.Refuses (.addon, use) e ↔ registry.useAddon use = .error e := by
  rw [useAddon]
  constructor
  · intro h
    cases h with
    | unknown hlookup => rw [hlookup]
    | @wrongKind _ _ plugin hlookup hkind =>
      cases plugin with
      | metric => rw [hlookup]; rfl
      | addon => exact absurd rfl hkind
    | addon hlookup h =>
      rw [hlookup]
      exact Plugin.use_eq_error_iff.mpr h
  · intro h
    split at h <;> rename_i hlookup
    · cases h
      exact .unknown hlookup
    · exact .addon hlookup (Plugin.use_eq_error_iff.mp h)
    · cases h
      exact .wrongKind hlookup (by simp [AnyPlugin.kind])

/-- The error with which a declared plugin is refused, if it is. -/
def refusal? (registry : Registry) : PluginKind × PluginUse → Option Error
  | (.metric, use) => match registry.useMetric use with
    | .ok _ => none
    | .error e => some e
  | (.addon, use) => match registry.useAddon use with
    | .ok _ => none
    | .error e => some e

theorem refusal?_metric_eq_some_iff {use : PluginUse} {e : Error} :
    registry.refusal? (.metric, use) = some e ↔ registry.useMetric use = .error e := by
  rw [refusal?]
  cases registry.useMetric use <;> simp

theorem refusal?_addon_eq_some_iff {use : PluginUse} {e : Error} :
    registry.refusal? (.addon, use) = some e ↔ registry.useAddon use = .error e := by
  rw [refusal?]
  cases registry.useAddon use <;> simp

theorem refusal?_eq_some_iff {use : PluginKind × PluginUse} {e : Error} :
    registry.refusal? use = some e ↔ registry.Refuses use e := by
  obtain ⟨kind, use⟩ := use
  cases kind with
  | metric => rw [refusal?_metric_eq_some_iff, refuses_metric_iff]
  | addon => rw [refusal?_addon_eq_some_iff, refuses_addon_iff]

theorem refusal?_eq_none_iff {use : PluginKind × PluginUse} :
    registry.refusal? use = none ↔ ∀ e, ¬registry.Refuses use e := by
  rw [Option.eq_none_iff_forall_ne_some]
  exact forall_congr' fun e => not_congr refusal?_eq_some_iff

/-! ## Resolving -/

variable {decl : Declaration} {e : Error}

theorem resolveAll_eq_error_iff :
    registry.resolveAll decl = .error e ↔ decl.uses.findSome? registry.refusal? = some e := by
  have hmetrics (e : Error) : decl.metrics.mapM registry.useMetric = .error e ↔
      (decl.metrics.map (PluginKind.metric, ·)).findSome? registry.refusal? = some e := by
    rw [List.findSome?_map]
    exact mapM_eq_error_iff fun _ _ => refusal?_metric_eq_some_iff
  have haddons : decl.addons.mapM registry.useAddon = .error e ↔
      (decl.addons.map (PluginKind.addon, ·)).findSome? registry.refusal? = some e := by
    rw [List.findSome?_map]
    exact mapM_eq_error_iff fun _ _ => refusal?_addon_eq_some_iff
  have hnone : (decl.metrics.map (PluginKind.metric, ·)).findSome? registry.refusal? = none ↔
      ∃ metrics, decl.metrics.mapM registry.useMetric = .ok metrics := by
    rw [Option.eq_none_iff_forall_ne_some]
    simp only [ne_eq, ← hmetrics]
    cases decl.metrics.mapM registry.useMetric <;> simp
  rw [Declaration.uses, List.findSome?_append, Option.or_eq_some_iff, ← hmetrics, ← haddons, hnone]
  simp only [resolveAll, bind_eq_error_iff, pure_ne_error, and_false, exists_false, or_false,
    exists_and_right]

/-- A declaration that cannot be resolved fails with its first refusal. -/
theorem resolveAll_eq_error_iff_firstRefusal :
    registry.resolveAll decl = .error e ↔ ∃ i, decl.FirstRefusal registry i e := by
  simp only [resolveAll_eq_error_iff, findSome?_eq_some_iff_getElem?, refusal?_eq_some_iff,
    refusal?_eq_none_iff, Declaration.FirstRefusal]

theorem exists_firstRefusal {use : PluginKind × PluginUse} (huse : use ∈ decl.uses)
    (h : registry.Refuses use e) : ∃ i e', decl.FirstRefusal registry i e' := by
  have hsome : (decl.uses.findSome? registry.refusal?).isSome = true :=
    List.findSome?_isSome_iff.mpr ⟨use, huse, by rw [refusal?_eq_some_iff.mpr h]; rfl⟩
  obtain ⟨e', he'⟩ := Option.isSome_iff_exists.mp hsome
  obtain ⟨i, hi⟩ := resolveAll_eq_error_iff_firstRefusal.mp (resolveAll_eq_error_iff.mpr he')
  exact ⟨i, e', hi⟩

theorem exists_resolveAll_eq_ok (h : ∀ use ∈ decl.uses, ∀ e, ¬registry.Refuses use e) :
    ∃ resolution, registry.resolveAll decl = .ok resolution := by
  cases hresult : registry.resolveAll decl with
  | ok resolution => exact ⟨resolution, rfl⟩
  | error e =>
    obtain ⟨i, use, huse, hrefuses, -⟩ := resolveAll_eq_error_iff_firstRefusal.mp hresult
    exact absurd hrefuses (h use (List.mem_of_getElem? huse) e)

end Registry

/-! ## Declarations that begin alike -/

namespace Declaration

variable {registry : Registry} {decl decl' : Declaration} {i : ℕ} {e : Error}

/-- What is declared after the refused plugin has no part in the refusal. -/
theorem FirstRefusal.of_take_eq (h : decl.FirstRefusal registry i e)
    (htake : decl'.uses.take (i + 1) = decl.uses.take (i + 1)) :
    decl'.FirstRefusal registry i e := by
  have hsame : ∀ j ≤ i, decl'.uses[j]? = decl.uses[j]? := fun j hj => by
    rw [← List.getElem?_take_of_lt (Nat.lt_succ_of_le hj), htake,
      List.getElem?_take_of_lt (Nat.lt_succ_of_le hj)]
  obtain ⟨use, huse, hrefuses, hfirst⟩ := h
  refine ⟨use, (hsame i (Nat.le_refl i)).trans huse, hrefuses, fun j hj earlier hearlier => ?_⟩
  exact hfirst j hj earlier ((hsame j (Nat.le_of_lt hj)).symm.trans hearlier)

/-- Metrics are declared where the first declared plugin is one. -/
theorem metrics_ne_nil_iff :
    decl.metrics ≠ [] ↔ ∃ use, decl.uses.head? = some (PluginKind.metric, use) := by
  rw [uses]
  cases decl.metrics with
  | nil => cases decl.addons <;> simp
  | cons use uses => simp

theorem metrics_ne_nil_of_take_eq (h : decl.metrics ≠ [])
    (htake : decl'.uses.take (i + 1) = decl.uses.take (i + 1)) : decl'.metrics ≠ [] := by
  have hhead := congrArg List.head? htake
  simp only [List.head?_take, Nat.add_eq_zero_iff, Nat.one_ne_zero, and_false, if_false] at hhead
  rw [metrics_ne_nil_iff] at h ⊢
  rwa [hhead]

end Declaration
end MeasuredJob
