import MeasuredJob.Proofs.Composition.Customized
import MeasuredJob.Proofs.Composition.Readiness
import MeasuredJob.Proofs.Customization.Decorating

/-!
# Confined addons

An addon that names a job group is confined to it.  Here a declaration is composed twice, the second
time with one more addon at the end.  The addon takes part in both phases, and what it contributes is
customized by the other addons and shares the numbering of scripts with all other containers.  None
of this reaches another job group: its containers come out as they were.  In the job group itself
every container keeps its place, and only the setup and the wrap of the addon show.
-/

namespace MeasuredJob

open Success

/-- What one more addon of the scope may make of a container. -/
structure ComposedContainer.Confines (scope : Scope) (before after : ComposedContainer) : Prop where
  decorates : before.spec.Decorates after.spec
  launch : after.launch = before.launch
  elsewhere : before.spec.jobGroup ≠ scope.target → after = before
  command : scope.containerTarget ≠ "" → before.spec.name ≠ scope.containerTarget →
    after.spec.script.command.render = before.spec.script.command.render

/-- What one more addon of the scope may make of a composition. -/
structure Composition.Confines (scope : Scope) (before after : Composition) : Prop where
  jobGroups : after.jobGroups = before.jobGroups
  containersIn : ∀ jobGroup, jobGroup ≠ scope.target →
    after.containersIn jobGroup = before.containersIn jobGroup
  containers : ∀ (i : ℕ) (k : ComposedContainer), before.containers[i]? = some k →
    ∃ k', after.containers[i]? = some k' ∧ k.Confines scope k'
  added : ∀ k ∈ after.containers.drop before.containers.length, k.spec.jobGroup = scope.target

/-! ## Contributions -/

namespace Assembly

variable {ctx : Context} {groups : List JobGroup}

theorem jobGroup_of_mem_contribution {addon : Configured Addon} {index : ℕ} {new : List Container}
    (htarget : addon.behaviour.scope.target ≠ "")
    (h : contribution ctx groups (addon, index) = .ok new) :
    ∀ c ∈ new, c.jobGroup = addon.behaviour.scope.target := by
  intro c hc
  obtain ⟨group, -, htargeted, containers, -, c', -, rfl⟩ := exists_of_mem_contribution h hc
  rw [Scope.targetsGroup, Bool.or_eq_true, beq_iff_eq, beq_iff_eq] at htargeted
  exact (htargeted.resolve_left htarget).symm

end Assembly

/-! ## Rendering -/

namespace Composition

variable {ctx : Context} {interactive : Bool} {groups : List JobGroup}

/-- Addons that only decorate leave the keys of scripts. -/
theorem withKeys_visitAll {addons : List (Configured Addon)}
    (h : ∀ addon ∈ addons, addon.behaviour.OnlyDecorates) (containers : List Container)
    (anonymous : ℕ) :
    withKeys anonymous (containers.map (visitAll groups addons)) =
      (withKeys anonymous containers).map (Prod.map (visitAll groups addons) id) :=
  withKeys_map (fun c => (decorates_visitAll h groups c).persistScript_eq)
    (fun c => (decorates_visitAll h groups c).scriptName_eq) containers anonymous

theorem Composes.confines {addon : Addon} (honly : addon.OnlyDecorates)
    (htarget : addon.scope.target ≠ "") {container : Container} {key? : Option String}
    {k k' : ComposedContainer} (h : Composes ctx interactive groups (container, key?) k)
    (h' : Composes ctx interactive groups (addon.visit groups container, key?) k') :
    k.Confines addon.scope k' where
  decorates := by
    rw [h.spec_eq, h'.spec_eq]
    exact honly.decorates_visit groups container
  launch := h.launch_eq h'
  elsewhere hne := by
    rw [h.spec_eq] at hne
    rw [Addon.visit_of_target_ne htarget hne] at h'
    exact h.unique h'
  command hcontainer hne := by
    rw [h.spec_eq] at hne
    rw [h.spec_eq, h'.spec_eq]
    exact congrArg Command.render
      (Addon.command_visit_of_containerTarget_ne hcontainer groups hne)

/-- A composition is confined when its containers are the old ones, each by itself, and further ones
of the targeted job group. -/
theorem Confines.of_forall₂ {scope : Scope} {before after : Composition}
    (hgroups : after.jobGroups = before.jobGroups) {first added : List ComposedContainer}
    (hsplit : after.containers = first ++ added)
    (hfirst : List.Forall₂ (ComposedContainer.Confines scope) before.containers first)
    (hadded : ∀ k ∈ added, k.spec.jobGroup = scope.target) : before.Confines scope after where
  jobGroups := hgroups
  containersIn jobGroup hne := by
    have hnone : added.filter (fun k => k.spec.jobGroup == jobGroup) = [] := by
      refine List.filter_eq_nil_iff.mpr fun k hk hin => hne ?_
      rw [← beq_iff_eq.mp hin, hadded k hk]
    rw [Composition.containersIn, Composition.containersIn, hsplit, List.filter_append, hnone,
      List.append_nil]
    refine filter_eq_filter_of_forall₂ hfirst (fun k k' hconfines => ?_)
      fun k k' hconfines hin => hconfines.elsewhere ?_
    · rw [hconfines.decorates.jobGroup_eq]
    · rwa [beq_iff_eq.mp hin]
  containers i k hk := by
    obtain ⟨k', hk', hconfines⟩ := exists_getElem?_of_forall₂ hfirst hk
    have hlt := (List.getElem?_eq_some_iff.mp hk').1
    exact ⟨k', by rw [hsplit, List.getElem?_append_left hlt, hk'], hconfines⟩
  added := by
    rw [hsplit, hfirst.length_eq, List.drop_left]
    exact hadded

end Composition

/-! ## Two compositions -/

section

variable {registry : Registry} {settings : Settings} {name : String} {decl : Declaration}
  {use : PluginUse} {addon : Configured Addon} {c c' : Composition}

theorem Stages.confines (honly : registry.OnlyDecorates)
    (hconfigured : registry.useAddon use = .ok addon) (htarget : addon.behaviour.scope.target ≠ "")
    {resolution resolution' : Resolution} {contributed contributed' customized customized' : Assembly}
    (h : Stages registry settings name decl resolution contributed customized c)
    (h' : Stages registry settings name { decl with addons := decl.addons ++ [use] } resolution'
      contributed' customized' c') : c.Confines addon.behaviour.scope c' := by
  -- The resolution has one more addon.
  obtain ⟨metrics, addons⟩ := resolution
  obtain rfl : resolution' = ⟨metrics, addons ++ [addon]⟩ := by
    have hresolved := h'.resolved
    rw [← List.insertIdx_length_self, Registry.resolveAll_insertIdx_eq_ok_iff (Nat.le_refl _)]
      at hresolved
    obtain ⟨before, addon', hbefore, hconfigured', rfl⟩ := hresolved
    obtain rfl := Except.ok.inj (hbefore.symm.trans h.resolved)
    obtain rfl := Except.ok.inj (hconfigured.symm.trans hconfigured')
    rw [(Registry.resolveAll_eq_ok_iff.mp h.resolved).2.length_eq, List.insertIdx_length_self]
  have honly' := honly.of_resolveAll h'.resolved
  have hlocal : ∀ other ∈ addons ++ [addon], other.behaviour.IsLocal :=
    fun other hother => (honly' other hother).isLocal
  have hlast : addon ∈ addons ++ [addon] := List.mem_append_right addons (List.mem_singleton_self _)
  -- It contributes behind all others.
  obtain ⟨before, hbefore, hstep⟩ := Assembly.assemble_concat.mp h'.assembled
  obtain rfl := Except.ok.inj (hbefore.symm.trans h.assembled)
  obtain ⟨-, new, hnew, rfl⟩ := Assembly.addAddon_eq_ok_iff_contribution.mp hstep
  -- The second phase takes the same containers through it last.
  have hcustomized := Assembly.containers_customize_of_isLocal
    (fun other hother => hlocal other (List.mem_append_left _ hother))
    (Assembly.nodup_groups_assemble h.assembled) h.revised
  have hcustomized' := Assembly.containers_customize_of_isLocal hlocal
    (Assembly.nodup_groups_assemble h'.assembled) h'.revised
  have hgroups : c'.jobGroups = c.jobGroups := h'.jobGroups_eq.trans h.jobGroups_eq.symm
  have hcomposes := h.forall₂_composes
  have hcomposes' := h'.forall₂_composes
  rw [hcustomized, h.jobGroups_eq, Composition.withKeys_visitAll
    (fun other hother => honly' other (List.mem_append_left _ hother)), List.forall₂_map_left_iff]
    at hcomposes
  rw [hcustomized', h'.jobGroups_eq, Composition.withKeys_visitAll honly',
    List.forall₂_map_left_iff, Composition.withKeys_append] at hcomposes'
  obtain ⟨first, added, hsplit, hfirst, hadded⟩ := exists_of_forall₂_append hcomposes'
  refine .of_forall₂ hgroups hsplit
    (forall₂_of_common hcomposes hfirst fun keyed k k' hk hk' => ?_) fun k hk => ?_
  · rw [Prod.map, visitAll_concat] at hk'
    exact Composition.Composes.confines (honly' addon hlast) htarget hk hk'
  · obtain ⟨keyed, hkeyed, hcomposed⟩ := exists_of_mem_right hadded hk
    have hnew : keyed.1.jobGroup = addon.behaviour.scope.target :=
      (Composition.forall_withKeys_iff (fun c => c.jobGroup = addon.behaviour.scope.target) _).mpr
        (Assembly.jobGroup_of_mem_contribution htarget hnew) keyed hkeyed
    rw [hcomposed.spec_eq, ← hnew]
    exact (decorates_visitAll honly' _ keyed.1).jobGroup_eq

end

/-- An addon that names a job group reaches no other one.  With such an addon at the end of a
declaration the job groups are the same, and so are the containers of all other job groups, with
their scripts, keys, paths and commands.  In its own job group every container keeps its place and
its identity, and where the addon names another container its command line as well. -/
theorem confines_of_compose {registry : Registry} {settings : Settings} {name : String}
    {decl : Declaration} {use : PluginUse} {addon : Configured Addon} {c c' : Composition}
    (honly : registry.OnlyDecorates) (hconfigured : registry.useAddon use = .ok addon)
    (htarget : addon.behaviour.scope.target ≠ "")
    (h : decl.compose registry settings name = .ok c)
    (h' : ({ decl with addons := decl.addons ++ [use] } : Declaration).compose registry settings
      name = .ok c') :
    c.Confines addon.behaviour.scope c' := by
  obtain ⟨resolution, contributed, customized, hstages⟩ := compose_eq_ok_iff.mp h
  obtain ⟨resolution', contributed', customized', hstages'⟩ := compose_eq_ok_iff.mp h'
  exact hstages.confines honly hconfigured htarget hstages'

namespace Sample

/-- The profiler around the commands of one container in one job group. -/
def profiled : PluginUse :=
  { name := "perf-hpctoolkit"
    bag := ((target "a").setText "containerTarget" "main").setText "events" "-e IO" }

end Sample

/-- The profiler comes to a job group with two containers, and names one of them. -/
theorem confines_of_profiled :
    ∃ addon c c', Sample.wrapping.useAddon Sample.profiled = .ok addon ∧
      addon.behaviour.scope = { target := "a", containerTarget := "main" } ∧
      Sample.traced.compose Sample.wrapping {} "set" = .ok c ∧
      ({ Sample.traced with addons := Sample.traced.addons ++ [Sample.profiled] } :
        Declaration).compose Sample.wrapping {} "set" = .ok c' ∧
      c.Confines { target := "a", containerTarget := "main" } c' := by
  obtain ⟨addon, hconfigured, hscope⟩ : ∃ addon,
      Sample.wrapping.useAddon Sample.profiled = .ok addon ∧
        addon.behaviour.scope = { target := "a", containerTarget := "main" } := by
    have hscope : (Sample.wrapping.useAddon Sample.profiled).map (fun addon =>
        addon.behaviour.scope) = .ok { target := "a", containerTarget := "main" } := by
      decide +kernel
    cases hconfigured : Sample.wrapping.useAddon Sample.profiled with
    | ok addon => exact ⟨addon, rfl, Except.ok.inj (hconfigured ▸ hscope)⟩
    | error e => cases hconfigured ▸ hscope
  obtain ⟨c, h⟩ : ∃ c, Sample.traced.compose Sample.wrapping {} "set" = .ok c :=
    exists_of_isOk (by decide +kernel)
  have hrehearsed : ({ Sample.traced with addons := Sample.traced.addons ++ [Sample.profiled] } :
      Declaration).rehearse Sample.wrapping {} "set" (fun _ => true) = .ok true := by
    decide +kernel
  obtain ⟨c', h', -⟩ := exists_compose_of_rehearse hrehearsed
  refine ⟨addon, c, c', hconfigured, hscope, h, h', ?_⟩
  rw [← hscope]
  exact confines_of_compose Sample.onlyWraps_wrapping.onlyDecorates hconfigured
    (by rw [hscope]; decide) h h'

end MeasuredJob
