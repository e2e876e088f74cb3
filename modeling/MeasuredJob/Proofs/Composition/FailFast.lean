import MeasuredJob.Proofs.Composition.Guard
import MeasuredJob.Proofs.Composition.Refusal
import MeasuredJob.Proofs.Plugin.FirstRefusal

/-!
# Failing fast

A declaration whose plugins cannot all be configured fails with the first refusal, whatever else
stands in it and whatever the settings are.  Once all plugins are configured, nothing in the library
reports an error of configuration any more.  Such an error can only be the own error of a plugin
from outside the library, returned when it contributes or when it customizes.
-/

namespace MeasuredJob

open Success Failure

/-! ## Errors of composition -/

theorem Assembly.category_of_firstOffence {groups : List JobGroup} {identifier : String}
    {index : ℕ} {before after : List Container} {e : Error}
    (h : FirstOffence groups identifier index before after e) : e.category = .composition := by
  obtain ⟨i, c, c', -, -, hoffends, -⟩ := h
  cases hoffends <;> rfl

namespace Composition

variable {ctx : Context} {interactive : Bool} {resolution : Resolution} {groups : List JobGroup}
  {anonymous : ℕ} {keys : List String} {e : Error}

theorem category_of_composeContainers {containers : List Container}
    (h : composeContainers ctx interactive resolution groups anonymous keys containers =
      .error e) : e.category = .composition := by
  obtain ⟨before, c, after, -, -, hfails⟩ := composeContainers_eq_error_iff.mp h
  cases hfails <;> rfl

theorem category_of_render {assembly : Assembly}
    (h : render ctx interactive resolution assembly = .error e) : e.category = .composition := by
  simp only [render, bind_eq_error_iff, ↓check_bind_eq_error_iff, pure_ne_error, and_false,
    or_false] at h
  rcases h with hcontainers | ⟨containers, -, hclash⟩
  · exact category_of_composeContainers hcontainers
  · unfold volumeClash? at hclash
    split at hclash
    · cases hclash
    · split at hclash
      · cases hclash
        rfl
      · cases hclash

end Composition

/-! ## Plugins from outside the library -/

/-- The declared plugin is not one of the library. -/
def Registry.Foreign (registry : Registry) (use : PluginUse) : Prop :=
  ∃ plugin, registry.lookup use.name = some plugin ∧ plugin ∉ Builtin.plugins

namespace Registry

variable {registry : Registry} {use : PluginUse}

theorem metricOf_of_not_foreign (hown : ¬registry.Foreign use) {metric : Configured Metric}
    (h : registry.useMetric use = .ok metric) : Builtin.MetricOf metric.behaviour := by
  obtain ⟨plugin, hlookup, huse⟩ := useMetric_eq_ok_iff.mp h
  have hmem : .metric plugin ∈ Builtin.plugins := by
    by_contra hforeign
    exact hown ⟨_, hlookup, hforeign⟩
  exact (Builtin.acceptsMetric_of_mem hmem (identifier_of_lookup hlookup).symm
    huse).declares.metricOf

theorem addonOf_of_not_foreign (hown : ¬registry.Foreign use) {addon : Configured Addon}
    (h : registry.useAddon use = .ok addon) : Builtin.AddonOf use.bag addon.behaviour := by
  obtain ⟨plugin, hlookup, huse⟩ := useAddon_eq_ok_iff.mp h
  have hmem : .addon plugin ∈ Builtin.plugins := by
    by_contra hforeign
    exact hown ⟨_, hlookup, hforeign⟩
  exact (Builtin.acceptsAddon_of_mem hmem (identifier_of_lookup hlookup).symm huse).declares.addonOf

end Registry

/-- A plugin from outside the library returned the error, when it contributed or when it
customized. -/
inductive Declaration.Raises (registry : Registry) (settings : Settings) (name : String)
    (decl : Declaration) (resolution : Resolution) (e : Error) : Prop where
  | metric (index : ℕ) (use : PluginUse) (huse : decl.metrics[index]? = some use)
      (hforeign : registry.Foreign use) (metric : Configured Metric)
      (hmetric : resolution.metrics[index]? = some metric)
      (h : metric.behaviour.containers (decl.context name settings) = .error e)
  | addon (index : ℕ) (use : PluginUse) (huse : decl.addons[index]? = some use)
      (hforeign : registry.Foreign use) (addon : Configured Addon)
      (haddon : resolution.addons[index]? = some addon) (before : Assembly)
      (hbefore : Assembly.assemble (decl.context name settings) (resolution.upTo index) = .ok before)
      (group : JobGroup) (hgroup : group ∈ before.groups)
      (htargeted : addon.behaviour.scope.targetsGroup group.name = true)
      (h : addon.behaviour.containers group (decl.context name settings) = .error e)
  | customization (index : ℕ) (use : PluginUse) (huse : decl.addons[index]? = some use)
      (hforeign : registry.Foreign use) (contributed : Assembly) (addon : Configured Addon)
      (found : Assembly)
      (hreaches : Reaches registry settings name decl resolution contributed index addon found)
      (h : addon.behaviour.customize found.groups found.containers = .error e)

namespace Declaration

variable {registry : Registry} {settings : Settings} {name : String} {decl : Declaration}
  {resolution : Resolution} {contributed : Assembly} {e : Error}

theorem Raises.of_assemble (hresolved : registry.resolveAll decl = .ok resolution)
    (h : Assembly.assemble (decl.context name settings) resolution = .error e)
    (hcategory : e.category = .configuration) :
    decl.Raises registry settings name resolution e := by
  obtain ⟨hmetrics, haddons⟩ := Registry.resolveAll_eq_ok_iff.mp hresolved
  rcases Assembly.assemble_eq_error_cases h with
    ⟨index, metric, before, hmetric, hstep⟩ | ⟨index, addon, before, haddon, hbefore, hstep⟩
  · obtain ⟨use, huse, hconfigured⟩ := exists_getElem?_of_forall₂ hmetrics.flip hmetric
    by_cases hforeign : registry.Foreign use
    · rcases Assembly.addMetric_eq_error_iff.mp hstep with ⟨-, rfl⟩ | ⟨-, hfails | ⟨_, -, hfails⟩⟩
      · cases hcategory
      · exact .metric index use huse hforeign metric hmetric hfails
      · obtain ⟨c, -, rfl⟩ := Option.map_eq_some_iff.mp hfails
        cases hcategory
    · rw [Assembly.addMetric_eq_error (Registry.metricOf_of_not_foreign hforeign hconfigured)
        hstep] at hcategory
      cases hcategory
  · obtain ⟨use, huse, hconfigured⟩ := exists_getElem?_of_forall₂ haddons.flip haddon
    rcases Assembly.addAddon_eq_error_cases hstep with ⟨-, -, rfl⟩ | ⟨group, hgroup, htargeted, hfails⟩
    · cases hcategory
    · refine .addon index use huse (by_contra fun hown => ?_) addon haddon before hbefore group
        hgroup htargeted hfails
      obtain ⟨containers, hcontainers, -⟩ :=
        (Registry.addonOf_of_not_foreign hown hconfigured).containers_eq group _
      rw [hcontainers] at hfails
      cases hfails

theorem Raises.of_customize (hdeclared : decl.metrics ≠ [])
    (hresolved : registry.resolveAll decl = .ok resolution)
    (hassembled : Assembly.assemble (decl.context name settings) resolution = .ok contributed)
    (hunique : contributed.checkUnique = .ok ())
    (h : contributed.customize resolution.addons = .error e)
    (hcategory : e.category = .configuration) :
    decl.Raises registry settings name resolution e := by
  obtain ⟨index, addon, found, haddon, hfound, hstep⟩ := exists_of_foldlM_zipIdx_eq_error h
  obtain ⟨use, huse, hconfigured⟩ :=
    exists_getElem?_of_forall₂ (Registry.resolveAll_eq_ok_iff.mp hresolved).2.flip haddon
  rcases Assembly.customizeBy_eq_error_iff.mp hstep with hfails | ⟨revised, -, hoffence⟩
  · refine .customization index use huse (by_contra fun hown => ?_) contributed addon found
      ⟨hdeclared, hresolved, hassembled, hunique, haddon, hfound⟩ hfails
    rw [(Registry.addonOf_of_not_foreign hown hconfigured).isScoped] at hfails
    cases hfails
  · rw [Assembly.category_of_firstOffence hoffence] at hcategory
    cases hcategory

/-- Behind the resolution, errors of configuration come from outside the library. -/
theorem Raises.of_compose (hdeclared : decl.metrics ≠ [])
    (hresolved : registry.resolveAll decl = .ok resolution)
    (h : decl.compose registry settings name = .error e)
    (hcategory : e.category = .configuration) :
    decl.Raises registry settings name resolution e := by
  have hunique {a : Assembly} (hfails : a.checkUnique = .error e) : False := by
    rcases Assembly.checkUnique_eq_error hfails with ⟨_, _, rfl⟩ | ⟨_, rfl⟩ <;> cases hcategory
  rw [compose, if_neg (by simpa using hdeclared)] at h
  simp only [assembly, hresolved, bind_eq_error_iff, bind_eq_ok_iff, reduceCtorEq,
    Except.ok.injEq, exists_eq_left', pure_ne_error, and_false, exists_false, false_or,
    or_false] at h
  rcases h with (hassemble | ⟨contributed, hassembled, hfirst | ⟨⟨⟩, hfirst, hphase⟩⟩) |
    ⟨customized, -, hrender⟩
  · exact .of_assemble hresolved hassemble hcategory
  · exact (hunique hfirst).elim
  · rcases hphase with hcustomize | ⟨customized, -, hsecond⟩
    · exact .of_customize hdeclared hresolved hassembled hfirst hcustomize hcategory
    · exact (hunique hsecond).elim
  · rw [Composition.category_of_render hrender] at hcategory
    cases hcategory

/-- The first refusal is the error of the composition. -/
theorem FirstRefusal.compose_eq_error {i : ℕ} (h : decl.FirstRefusal registry i e)
    (hdeclared : decl.metrics ≠ []) : decl.compose registry settings name = .error e := by
  rw [compose, if_neg (by simpa using hdeclared), bind_eq_error_iff]
  exact .inl (Registry.resolveAll_eq_error_iff_firstRefusal.mpr ⟨i, h⟩)

/-- A refusal that names a plugin names one of the declaration. -/
theorem Refusal.exists_use (h : decl.Refusal settings name e) {identifier : String}
    (hnames : e.plugin? = some identifier) :
    ∃ use ∈ decl.metrics ++ decl.addons, use.name = identifier := by
  cases h with
  | ofUse use huse h => exact ⟨use, huse, by cases h <;> exact Option.some.inj hnames⟩
  | missingApplication use huse =>
    exact ⟨use, List.mem_append_left _ huse, Option.some.inj hnames⟩
  | unknownJobGroup resolution hresolved use huse =>
    exact ⟨use, List.mem_append_right _ huse, Option.some.inj hnames⟩
  | noMetrics | duplicateContainer | duplicateVolume | markerInFragment => cases hnames

end Declaration

/-- What goes wrong with declared plugins goes wrong first.  The first plugin that is refused
decides the error, metrics before addons, in every declaration that begins with the same plugins up
to that one, under every name and all settings.  When no plugin is refused, an error of configuration
is the own error of a plugin from outside the library.  And with the plugins of the library, an error
that names a plugin names a declared one. -/
theorem fails_fast (registry : Registry) (decl : Declaration) :
    (decl.metrics ≠ [] →
      ((∃ use ∈ decl.uses, ∃ e, registry.Refuses use e) →
        ∃ i e, decl.FirstRefusal registry i e ∧
          ∀ settings name (decl' : Declaration),
            decl'.uses.take (i + 1) = decl.uses.take (i + 1) →
              decl'.compose registry settings name = .error e) ∧
      ((∀ use ∈ decl.uses, ∀ e, ¬registry.Refuses use e) →
        ∃ resolution, registry.resolveAll decl = .ok resolution ∧
          ∀ settings name e, decl.compose registry settings name = .error e →
            e.category = .configuration → decl.Raises registry settings name resolution e)) ∧
    ∀ settings name e identifier, decl.compose Builtin.registry settings name = .error e →
      e.plugin? = some identifier →
        ∃ use ∈ decl.metrics ++ decl.addons, use.name = identifier := by
  refine ⟨fun hdeclared => ⟨?_, fun hnone => ?_⟩, fun settings name e identifier herror => ?_⟩
  · rintro ⟨use, huse, e, hrefuses⟩
    obtain ⟨i, e', hfirst⟩ := Registry.exists_firstRefusal huse hrefuses
    refine ⟨i, e', hfirst, fun settings name decl' htake => ?_⟩
    exact (hfirst.of_take_eq htake).compose_eq_error
      (Declaration.metrics_ne_nil_of_take_eq hdeclared htake)
  · obtain ⟨resolution, hresolved⟩ := Registry.exists_resolveAll_eq_ok hnone
    exact ⟨resolution, hresolved, fun settings name e => .of_compose hdeclared hresolved⟩
  · exact (Declaration.refusal_of_compose herror).exists_use

namespace Sample

/-- An option that cannot be read, in front of an addon that there is none of. -/
def misspelt : Declaration := {
  metrics := [
    { name := "app-lammps" },
    { name := "perf-sysstat", bag := OptionBag.empty.setText "rate" "soon" }]
  addons := [{ name := "volume-nfs" }] }

/-- Asks for another plugin when it contributes. -/
def dependent : Plugin Metric :=
  plugin "dependent" fun _ => {
    kind := .workload
    containers := fun _ => .error (.unknownPlugin "helper") }

/-- The built-in plugins with a metric that asks for another plugin. -/
def asking : Registry :=
  Builtin.extend Builtin.registry [.metric dependent]

/-- A metric that asks for what is not there. -/
def unsupported : Declaration := {
  metrics := [{ name := "dependent" }] }

end Sample

/-- The option of the second metric is refused before the addon.  A metric from outside the library
is configured, and asks for another plugin when it contributes. -/
theorem fails_fast_of_misspelt :
    (∃ i e, Sample.misspelt.FirstRefusal Builtin.registry i e ∧
      (∀ settings name (decl' : Declaration),
        decl'.uses.take (i + 1) = Sample.misspelt.uses.take (i + 1) →
          decl'.compose Builtin.registry settings name = .error e) ∧
      Sample.misspelt.compose Builtin.registry {} "set" = .error e ∧
      e.plugin? = some "perf-sysstat" ∧ e.field? = some "rate") ∧
    ∃ resolution, Sample.asking.resolveAll Sample.unsupported = .ok resolution ∧
      Sample.unsupported.Raises Sample.asking {} "set" resolution (.unknownPlugin "helper") := by
  constructor
  · have hrefused : Builtin.registry.Refuses (.addon, { name := "volume-nfs" })
        (.unknownPlugin "volume-nfs") := .unknown (by decide +kernel)
    obtain ⟨i, e, hfirst, hsame⟩ := ((fails_fast Builtin.registry Sample.misspelt).1 (by decide)).1
      ⟨_, by decide, _, hrefused⟩
    have hcompose := hsame {} "set" Sample.misspelt rfl
    have herror : (match Sample.misspelt.compose Builtin.registry {} "set" with
      | .ok _ => none
      | .error e => some (e.plugin?, e.field?)) = some (some "perf-sysstat", some "rate") := by
      decide +kernel
    rw [hcompose] at herror
    obtain ⟨hplugin, hfield⟩ := Prod.mk.inj (Option.some.inj herror)
    exact ⟨i, e, hfirst, hsame, hcompose, hplugin, hfield⟩
  · have hnone : ∀ use ∈ Sample.unsupported.uses, ∀ e, ¬Sample.asking.Refuses use e := by
      intro use huse e hrefuses
      obtain rfl := List.mem_singleton.mp huse
      obtain ⟨metric, hmetric⟩ := exists_of_isOk
        (show (Sample.asking.useMetric { name := "dependent" }).isOk = true by decide +kernel)
      rw [Registry.refuses_metric_iff, hmetric] at hrefuses
      cases hrefuses
    obtain ⟨resolution, hresolved, hraises⟩ :=
      ((fails_fast Sample.asking Sample.unsupported).1 (by decide)).2 hnone
    exact ⟨resolution, hresolved, hraises {} "set" _ (by decide +kernel) rfl⟩

end MeasuredJob
