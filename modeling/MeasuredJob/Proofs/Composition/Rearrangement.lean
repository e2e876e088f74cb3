import MeasuredJob.Proofs.Composition.Persistence
import MeasuredJob.Proofs.Composition.Replay
import MeasuredJob.Proofs.Customization.Order
import MeasuredJob.Proofs.Customization.Registry

/-!
# The order of addons

The addons of the library do not see each other: what one contributes or wraps is the same wherever
it is declared, and two of them that wrap cannot be declared together.  So a declaration with its
addons in another order composes to the same job, or fails as well.  What differs is the order in
which the contributions of addons are listed, and the places by which containers refer to addons.
-/

namespace MeasuredJob

open Success

/-- The same container after its addon has moved to another place. -/
def ComposedContainer.relabel (σ : Equiv.Perm ℕ) (container : ComposedContainer) :
    ComposedContainer :=
  { container with spec := container.spec.relabel σ }

/-- `c'` is `c` after its addons have moved as `σ` says.  The containers are the same ones in
another order, each with its image, script, launch and command, and only refer to the new places of
their addons. -/
structure Composition.Rearranges (σ : Equiv.Perm ℕ) (c c' : Composition) : Prop where
  name : c'.name = c.name
  jobGroups : c'.jobGroups = c.jobGroups
  containers : c'.containers.Perm (c.containers.map (ComposedContainer.relabel σ))
  found : ∀ jobGroup name, c'.container? jobGroup name =
    (c.container? jobGroup name).map (ComposedContainer.relabel σ)
  volumes : c'.volumes.Perm c.volumes
  entrypointVolume : c'.entrypointVolume = c.entrypointVolume
  resolved : c'.resolved.Perm c.resolved

/-! ## Rendering in another order -/

namespace Composition

variable {σ : Equiv.Perm ℕ} {ctx : Context} {interactive : Bool} {groups : List JobGroup}

/-- Containers keep their keys in the other order, since those that move have names. -/
theorem perm_withKeys {a b : Assembly} (h : Assembly.Rearranges σ a b) :
    (withKeys 0 b.containers).Perm
      ((withKeys 0 a.containers).map (Prod.map (Container.relabel σ) id)) := by
  obtain ⟨own, support, support', ha, hb, hperm, hown, hnamed⟩ := h.containers
  have hnamed' : ∀ c ∈ support', c.script.name.isSome = true := by
    intro c' hc'
    obtain ⟨c, hc, rfl⟩ := List.mem_map.mp (hperm.mem_iff.mp hc')
    exact hnamed c hc
  have hsame : own.map (Container.relabel σ) = own :=
    (List.map_congr_left hown).trans (List.map_id own)
  have hmoved := hperm.map fun c => (c, keyOf? 0 c)
  rw [List.map_map] at hmoved
  rw [ha, hb, withKeys_append_of_named hnamed, withKeys_append_of_named hnamed', List.map_append,
    ← withKeys_map (f := Container.relabel σ) (fun _ => rfl) (fun _ => rfl), hsame, List.map_map]
  exact hmoved.append_left (withKeys 0 own)

theorem scriptVolume_eq_of_perm {keys keys' : List String} (h : keys.Perm keys')
    (hnodup : keys.Nodup) : scriptVolume ctx keys = scriptVolume ctx keys' := by
  have hempty : keys.isEmpty = keys'.isEmpty := by
    rw [Bool.eq_iff_iff, List.isEmpty_iff_length_eq_zero, List.isEmpty_iff_length_eq_zero,
      h.length_eq]
  have hfirst : ((fileEntries keys).map Prod.fst).Nodup := by
    rwa [keys_fileEntries]
  have hfiles : Table.ofList (fileEntries keys) = Table.ofList (fileEntries keys') :=
    Table.ofList_eq_of_perm (h.map _) hfirst
  rw [scriptVolume, scriptVolume, hempty, ← fileEntries, hfiles]
  rfl

theorem container?_eq_map_of_perm {c c' : Composition}
    (hperm : c'.containers.Perm (c.containers.map (ComposedContainer.relabel σ)))
    (hkeys : (c.containers.map fun k => k.spec.key).Nodup) (jobGroup name : String) :
    c'.container? jobGroup name =
      (c.container? jobGroup name).map (ComposedContainer.relabel σ) := by
  have hkeys' : (c'.containers.map fun k => k.spec.key).Nodup := by
    rw [(hperm.map _).nodup_iff, List.map_map]
    exact hkeys
  refine Option.ext fun k' => ?_
  rw [container?_eq_some_iff hkeys', hperm.mem_iff, List.mem_map, Option.map_eq_some_iff]
  constructor
  · rintro ⟨⟨k, hk, rfl⟩, hgroup, hname⟩
    exact ⟨k, (container?_eq_some_iff hkeys).mpr ⟨hk, hgroup, hname⟩, rfl⟩
  · rintro ⟨k, hfound, rfl⟩
    obtain ⟨hk, hgroup, hname⟩ := (container?_eq_some_iff hkeys).mp hfound
    exact ⟨⟨k, hk, rfl⟩, hgroup, hname⟩

/-- Rearranged assemblies render to rearranged compositions. -/
theorem exists_render_of_rearranges {resolution resolution' : Resolution} {a b : Assembly}
    {c : Composition} (h : Assembly.Rearranges σ a b) (hunique : a.checkUnique = .ok ())
    (huses : resolution'.uses.Perm resolution.uses)
    (hc : render ctx interactive resolution a = .ok c) :
    ∃ c', render ctx interactive resolution' b = .ok c' ∧ c.Rearranges σ c' := by
  obtain ⟨containers, hcontainers, hclash, rfl⟩ := render_eq_ok_iff.mp hc
  obtain ⟨hcomposes, hnodup, -⟩ := composeContainers_eq_ok_iff.mp hcontainers
  have hkeyed := perm_withKeys h
  have hmoved : List.Forall₂ (Composes ctx interactive a.groups)
      ((withKeys 0 a.containers).map (Prod.map (Container.relabel σ) id))
      (containers.map (ComposedContainer.relabel σ)) := by
    rw [List.forall₂_map_left_iff, List.forall₂_map_right_iff]
    exact hcomposes.imp fun _ _ hcomposed => hcomposed.remark _
  obtain ⟨containers', hcomposes', hperm⟩ := List.perm_comp_forall₂ hkeyed hmoved
  rw [← h.groups] at hcomposes'
  have hkeys : ((withKeys 0 b.containers).filterMap Prod.snd).Perm
      ((withKeys 0 a.containers).filterMap Prod.snd) := by
    have hsecond := hkeyed.filterMap Prod.snd
    rwa [List.filterMap_map] at hsecond
  have hnodup' := hkeys.nodup_iff.mpr hnodup
  have hcontainers' : composeContainers ctx interactive resolution' b.groups 0 [] b.containers =
      .ok containers' :=
    composeContainers_eq_ok_iff.mpr ⟨hcomposes', hnodup', fun _ _ => List.not_mem_nil⟩
  have hvolume : scriptVolume ctx (containers'.filterMap ComposedContainer.scriptKey?) =
      scriptVolume ctx (containers.filterMap ComposedContainer.scriptKey?) := by
    rw [scriptKeys_eq hcomposes, scriptKeys_eq hcomposes']
    exact scriptVolume_eq_of_perm hkeys hnodup'
  have hclash' : volumeClash? b.volumes
      (scriptVolume ctx (containers'.filterMap ComposedContainer.scriptKey?)) = none := by
    rw [hvolume, volumeClash?_eq_none_iff]
    intro volume hmem hname
    exact volumeClash?_eq_none_iff.mp hclash volume hmem
      ((h.volumes.map Volume.name).mem_iff.mp hname)
  have hspecs : containers.map (fun k => k.spec.key) = a.containers.map Container.key := by
    have hrenders := map_eq_map_of_forall₂ (forall₂_renders hcomposes) (f := Container.key)
      (g := fun k => k.spec.key) fun _ _ hrendered => by rw [hrendered.spec]
    exact hrenders.symm
  refine ⟨_, render_eq_ok_iff.mpr ⟨containers', hcontainers', hclash', rfl⟩, {
    name := rfl
    jobGroups := h.groups
    containers := hperm
    found := container?_eq_map_of_perm hperm ?_
    volumes := h.volumes
    entrypointVolume := hvolume
    resolved := huses }⟩
  show (containers.map fun k => k.spec.key).Nodup
  rw [hspecs]
  exact (Assembly.checkUnique_eq_ok_iff.mp hunique).1

end Composition

/-! ## Composing in another order -/

theorem Resolution.perm_uses {metrics : List (Configured Metric)}
    {addons addons' : List (Configured Addon)} (h : addons'.Perm addons) :
    (Resolution.mk metrics addons').uses.Perm (Resolution.mk metrics addons).uses :=
  (h.map _).append_left _

section

variable {settings : Settings} {name : String} {decl : Declaration} {resolution : Resolution}
  {contributed customized : Assembly} {c : Composition} {σ : Equiv.Perm ℕ}

/-- Two different addons of a declaration whose volumes are told apart do not both wrap. -/
theorem idle_of_ne (hresolved : Builtin.registry.resolveAll decl = .ok resolution) {ctx : Context}
    (hassembled : Assembly.assemble ctx resolution = .ok contributed)
    (hunique : contributed.checkUnique = .ok ()) :
    ∀ addon ∈ resolution.addons, ∀ addon' ∈ resolution.addons, addon ≠ addon' →
      addon.behaviour.Idle ∨ addon'.behaviour.Idle := by
  intro addon haddon addon' haddon' hne
  obtain ⟨use, -, -, hof⟩ := Builtin.exists_addonOf_of_resolveAll hresolved addon haddon
  obtain ⟨use', -, -, hof'⟩ := Builtin.exists_addonOf_of_resolveAll hresolved addon' haddon'
  rcases hof.idle_or_profiler with hidle | hprofiler
  · exact .inl hidle
  · rcases hof'.idle_or_profiler with hidle' | hprofiler'
    · exact .inr hidle'
    · have hview : ∀ options, ∃ volume ∈ (Profiler.addon options).volumes,
          volume.name = Profiler.viewName :=
        fun options => ⟨_, List.mem_singleton_self _, rfl⟩
      obtain ⟨volume, hvolume, hname⟩ := hview (Profiler.readOptions use.bag)
      obtain ⟨volume', hvolume', hname'⟩ := hview (Profiler.readOptions use'.bag)
      rw [← hprofiler] at hvolume
      rw [← hprofiler'] at hvolume'
      have hdistinct := Assembly.volume_ne_of_checkUnique hassembled hunique haddon haddon' hne
        hvolume hvolume'
      exact absurd (hname.trans hname'.symm) hdistinct

/-- The stages of a composition, with the addons in another order. -/
theorem Stages.exists_rearranges
    (h : Stages Builtin.registry settings name decl resolution contributed customized c)
    {addons : List PluginUse} (hσ : Rearranged σ decl.addons addons) :
    ∃ c', ({ decl with addons } : Declaration).compose Builtin.registry settings name = .ok c' ∧
      c.Rearranges σ c' := by
  obtain ⟨metrics, configured⟩ := resolution
  obtain ⟨hmetrics, haddons⟩ := Registry.resolveAll_eq_ok_iff.mp h.resolved
  obtain ⟨configured', haddons', hσ'⟩ := hσ.exists_forall₂ haddons
  have hof := Builtin.exists_addonOf_of_resolveAll h.resolved
  have hwraps : ∀ addon ∈ configured, ∃ w : Wrapper, w.Describes addon :=
    Registry.onlyWraps_builtin.describes_of_resolveAll h.resolved
  have hwraps' : ∀ addon ∈ configured', ∃ w : Wrapper, w.Describes addon :=
    fun addon haddon => hwraps addon (hσ'.perm.mem_iff.mp haddon)
  -- The first phase.
  obtain ⟨contributed', hassembled', hcontributed⟩ :=
    Assembly.exists_rearranges hσ' (fun addon haddon group containers hcontainers k hk => by
      obtain ⟨use, -, -, haddonOf⟩ := hof addon haddon
      obtain ⟨containers', hcontainers', hnamed⟩ := haddonOf.containers_eq group _
      rw [hcontainers'] at hcontainers
      cases hcontainers
      rw [hnamed k hk]
      rfl) h.assembled
  have hunique' := hcontributed.checkUnique h.contributedUnique
  -- The second phase.
  have hcustomized := Assembly.customize_eq_ok hwraps (Assembly.nodup_groups_assemble h.assembled)
    (Assembly.placed_assemble h.assembled)
  have hcustomized' := Assembly.customize_eq_ok hwraps'
    (Assembly.nodup_groups_assemble hassembled') (Assembly.placed_assemble hassembled')
  obtain rfl := Except.ok.inj (h.revised.symm.trans hcustomized)
  have hsame : visitAll contributed'.groups configured' = visitAll contributed.groups configured := by
    rw [hcontributed.groups]
    funext container
    exact (visitAll_perm hσ'.perm.symm (idle_of_ne h.resolved h.assembled h.contributedUnique)
      _ container).symm
  rw [hsame] at hcustomized'
  have hrearranged := hcontributed.map (f := visitAll contributed.groups configured)
    (visitAll_remark (f := Option.map (Contributor.relabel σ)) fun addon haddon container => by
      obtain ⟨use, -, -, haddonOf⟩ := hof addon haddon
      exact haddonOf.visit_remark _ _ container)
    (fun container => by
      obtain ⟨fragments, words, privileged, hvisit⟩ :=
        exists_visitAll_eq hwraps contributed.groups container
      rw [hvisit]
      rfl)
  -- Scripts and their keys.
  have huses : (Resolution.mk metrics configured').uses.Perm (Resolution.mk metrics configured).uses :=
    Resolution.perm_uses hσ'.perm
  obtain ⟨c', hrendered, hc'⟩ := Composition.exists_render_of_rearranges hrearranged
    h.customizedUnique huses h.rendered
  refine ⟨c', compose_eq_ok_iff.mpr ⟨⟨metrics, configured'⟩, contributed', _, {
    declared := h.declared
    resolved := Registry.resolveAll_eq_ok_iff.mpr ⟨hmetrics, haddons'⟩
    assembled := hassembled'
    contributedUnique := hunique'
    revised := hcustomized'
    customizedUnique := hrearranged.checkUnique h.customizedUnique
    rendered := hrendered }⟩, hc'⟩

end

/-- The order of addons does not matter: a declaration composes in every order of its addons or in
none, and two orders compose to the same job. -/
theorem rearranges_of_perm {settings : Settings} {name : String} {decl : Declaration}
    {addons : List PluginUse} (h : decl.addons.Perm addons) :
    ((∃ c, decl.compose Builtin.registry settings name = .ok c) ↔
      ∃ c', ({ decl with addons } : Declaration).compose Builtin.registry settings name =
        .ok c') ∧
    (∃ σ, Rearranged σ decl.addons addons) ∧
    ∀ c c', decl.compose Builtin.registry settings name = .ok c →
      ({ decl with addons } : Declaration).compose Builtin.registry settings name = .ok c' →
        ∀ σ, Rearranged σ decl.addons addons → c.Rearranges σ c' := by
  obtain ⟨σ, hσ⟩ := Rearranged.exists_of_perm h
  refine ⟨⟨?_, ?_⟩, ⟨σ, hσ⟩, ?_⟩
  · rintro ⟨c, hc⟩
    obtain ⟨resolution, contributed, customized, hstages⟩ := compose_eq_ok_iff.mp hc
    obtain ⟨c', hc', -⟩ := hstages.exists_rearranges hσ
    exact ⟨c', hc'⟩
  · rintro ⟨c', hc'⟩
    obtain ⟨resolution, contributed, customized, hstages⟩ := compose_eq_ok_iff.mp hc'
    obtain ⟨c, hc, -⟩ := hstages.exists_rearranges hσ.symm
    exact ⟨c, hc⟩
  · intro c c' hc hc' τ hτ
    obtain ⟨resolution, contributed, customized, hstages⟩ := compose_eq_ok_iff.mp hc
    obtain ⟨c'', hc'', hrearranges⟩ := hstages.exists_rearranges hτ
    obtain rfl : c'' = c' := Except.ok.inj (hc''.symm.trans hc')
    exact hrearranges

/-- A container and a volume in either order. -/
theorem rearranges_of_reversed :
    ∃ c c', Sample.supported.compose Builtin.registry {} "set" = .ok c ∧
      ({ Sample.supported with addons := Sample.supported.addons.reverse } :
        Declaration).compose Builtin.registry {} "set" = .ok c' ∧
      ∃ σ, Rearranged σ Sample.supported.addons Sample.supported.addons.reverse ∧
        c.Rearranges σ c' := by
  have hok : (Sample.supported.compose Builtin.registry {} "set").isOk = true := by
    decide +kernel
  obtain ⟨c, hc⟩ := Success.exists_of_isOk hok
  have hperm : Sample.supported.addons.Perm Sample.supported.addons.reverse :=
    (List.reverse_perm _).symm
  obtain ⟨hiff, ⟨σ, hσ⟩, hall⟩ := rearranges_of_perm hperm
  obtain ⟨c', hc'⟩ := hiff.mp ⟨c, hc⟩
  exact ⟨c, c', hc, hc', σ, hσ, hall c c' hc hc' σ hσ⟩

end MeasuredJob
