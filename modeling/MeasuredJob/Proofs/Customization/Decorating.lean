import MeasuredJob.Proofs.Customization.Registry

/-!
# Addons that only decorate

Wider than the addons that wrap once are those that wrap as often as they like, with whatever words,
and decide about privileges as well.  Such an addon decorates the containers of the job group that
it targets: it adds fragments before the command, words around it, and leaves everything else in
them.  What it does not target it does not touch.
-/

namespace MeasuredJob

/-! ## Decorated containers -/

/-- A container with more fragments before its command, words around its command from the inside to
the outside, and other privileges.  Nothing else in it changes. -/
def Container.decorated (container : Container) (fragments : List String)
    (words : List (String × String)) (privileged : Bool) : Container :=
  { container with
    script := { container.script with
      pre := container.script.pre ++ fragments
      command := { container.script.command with
        invocation := words.foldl wrapText container.script.command.invocation } }
    security := { container.security with privileged } }

theorem Container.decorated_nil (container : Container) :
    container.decorated [] [] container.security.privileged = container := by
  simp [decorated]

theorem Container.decorated_decorated (container : Container) (fragments fragments' : List String)
    (words words' : List (String × String)) (privileged privileged' : Bool) :
    (container.decorated fragments words privileged).decorated fragments' words' privileged' =
      container.decorated (fragments ++ fragments') (words ++ words') privileged' := by
  simp [decorated, List.foldl_append]

theorem Container.customized_eq_decorated (container : Container) (fragments : List String)
    (words : List (String × String)) (privileged : Bool) :
    container.customized fragments words privileged =
      container.decorated fragments words (container.security.privileged || privileged) := rfl

/-- What is made of a container is decorated in no other way. -/
def Container.Decorates (before after : Container) : Prop :=
  ∃ fragments words privileged, after = before.decorated fragments words privileged

namespace Container.Decorates

variable {before between after : Container}

theorem refl (container : Container) : container.Decorates container :=
  ⟨[], [], _, container.decorated_nil.symm⟩

theorem trans (h : before.Decorates between) (h' : between.Decorates after) :
    before.Decorates after := by
  obtain ⟨fragments, words, privileged, rfl⟩ := h
  obtain ⟨fragments', words', privileged', rfl⟩ := h'
  exact ⟨_, _, _, before.decorated_decorated _ _ _ _ _ _⟩

theorem jobGroup_eq (h : before.Decorates after) : after.jobGroup = before.jobGroup := by
  obtain ⟨fragments, words, privileged, rfl⟩ := h
  rfl

theorem persistScript_eq (h : before.Decorates after) :
    after.persistScript = before.persistScript := by
  obtain ⟨fragments, words, privileged, rfl⟩ := h
  rfl

theorem scriptName_eq (h : before.Decorates after) : after.script.name = before.script.name := by
  obtain ⟨fragments, words, privileged, rfl⟩ := h
  rfl

end Container.Decorates

/-! ## Decorating addons -/

/-- The addon customizes by its scope, and its wrap puts words around the command and decides about
privileges. -/
structure Addon.OnlyDecorates (addon : Addon) : Prop where
  isScoped : addon.IsScoped
  wrap_eq : ∀ c, ∃ words privileged, addon.wrap c = c.decorated [] words privileged

namespace Addon

variable {addon : Addon}

theorem OnlyDecorates.isLocal (h : addon.OnlyDecorates) : addon.IsLocal where
  isScoped := h.isScoped
  jobGroup_wrap c := by
    obtain ⟨words, privileged, hwrap⟩ := h.wrap_eq c
    rw [hwrap]
    rfl

/-- An addon changes only regular containers of a job group that it targets. -/
theorem visit_eq_cases (addon : Addon) (groups : List JobGroup) (container : Container) :
    addon.visit groups container = container ∨
      ∃ group, group.name = container.jobGroup ∧ addon.scope.targetsGroup group.name = true ∧
        addon.visit groups container =
          customizeContainer addon.scope addon.setup addon.wrap group container := by
  rw [visit, customizeIn]
  split
  · exact .inl rfl
  · cases hgroup : Assembly.findGroup? groups container.jobGroup with
    | none => exact .inl rfl
    | some group =>
      simp only [customizeTargeted]
      by_cases htarget : addon.scope.targetsGroup group.name = true
      · rw [if_pos htarget]
        exact .inr ⟨group, (Assembly.name_of_findGroup? hgroup).2, htarget, rfl⟩
      · rw [if_neg htarget]
        exact .inl rfl

theorem OnlyDecorates.decorates_visit (h : addon.OnlyDecorates) (groups : List JobGroup)
    (container : Container) : container.Decorates (addon.visit groups container) := by
  rcases addon.visit_eq_cases groups container with hvisit | ⟨group, -, -, hvisit⟩
  · rw [hvisit]
    exact .refl container
  · have hsetup : container.Decorates
        (container.customized (addon.setup group).toList [] false) :=
      ⟨_, _, _, container.customized_eq_decorated _ _ _⟩
    rw [hvisit, customizeContainer_eq]
    split
    · obtain ⟨words, privileged, hwrap⟩ :=
        h.wrap_eq (container.customized (addon.setup group).toList [] false)
      exact hsetup.trans ⟨[], words, privileged, hwrap⟩
    · exact hsetup

/-- An addon leaves the containers of other job groups alone. -/
theorem visit_of_target_ne (htarget : addon.scope.target ≠ "") {groups : List JobGroup}
    {container : Container} (hne : container.jobGroup ≠ addon.scope.target) :
    addon.visit groups container = container := by
  rcases addon.visit_eq_cases groups container with hvisit | ⟨group, hname, htargeted, -⟩
  · exact hvisit
  · rw [Scope.targetsGroup, Bool.or_eq_true, beq_iff_eq, beq_iff_eq, hname] at htargeted
    exact absurd htargeted (not_or.mpr ⟨htarget, hne.symm⟩)

/-- An addon leaves the commands of containers of other names alone. -/
theorem command_visit_of_containerTarget_ne (htarget : addon.scope.containerTarget ≠ "")
    (groups : List JobGroup) {container : Container}
    (hne : container.name ≠ addon.scope.containerTarget) :
    (addon.visit groups container).script.command = container.script.command := by
  rcases addon.visit_eq_cases groups container with hvisit | ⟨group, -, -, hvisit⟩
  · rw [hvisit]
  · have hother : addon.scope.targetsContainer container.name = false := by
      rw [Scope.targetsContainer, Bool.or_eq_false_iff, beq_eq_false_iff_ne, beq_eq_false_iff_ne]
      exact ⟨htarget, hne.symm⟩
    rw [hvisit, customizeContainer_eq, hother, if_neg Bool.false_ne_true]
    rfl

end Addon

theorem decorates_visitAll {addons : List (Configured Addon)}
    (h : ∀ addon ∈ addons, addon.behaviour.OnlyDecorates) (groups : List JobGroup)
    (container : Container) : container.Decorates (visitAll groups addons container) := by
  induction addons generalizing container with
  | nil => exact .refl container
  | cons addon addons ih =>
    have hfirst := (h addon List.mem_cons_self).decorates_visit groups container
    exact hfirst.trans (ih (fun addon haddon => h addon (List.mem_cons_of_mem _ haddon)) _)

/-! ## Registries -/

namespace Registry

/-- Whatever options the addons of the registry are given, they only decorate. -/
def OnlyDecorates (registry : Registry) : Prop :=
  ∀ identifier plugin, registry.lookup identifier = some (.addon plugin) →
    ∀ bag addon, plugin.use bag = .ok addon → addon.behaviour.OnlyDecorates

variable {registry : Registry}

theorem OnlyDecorates.of_useAddon (h : registry.OnlyDecorates) {use : PluginUse}
    {addon : Configured Addon} (huse : registry.useAddon use = .ok addon) :
    addon.behaviour.OnlyDecorates := by
  obtain ⟨plugin, hlookup, hplugin⟩ := useAddon_eq_ok_iff.mp huse
  exact h _ plugin hlookup _ _ hplugin

theorem OnlyDecorates.of_resolveAll (h : registry.OnlyDecorates) {decl : Declaration}
    {resolution : Resolution} (hresolved : registry.resolveAll decl = .ok resolution) :
    ∀ addon ∈ resolution.addons, addon.behaviour.OnlyDecorates := by
  intro addon haddon
  obtain ⟨use, -, huse⟩ :=
    Success.exists_of_mem_right (resolveAll_eq_ok_iff.mp hresolved).2 haddon
  exact h.of_useAddon huse

/-- Addons that wrap once only decorate. -/
theorem OnlyWraps.onlyDecorates (h : registry.OnlyWraps) : registry.OnlyDecorates := by
  intro identifier plugin hlookup bag addon huse
  obtain ⟨w, hw⟩ := h identifier plugin hlookup bag addon huse
  exact {
    isScoped := hw.isScoped
    wrap_eq := fun container => ⟨_, _, hw.wrap_eq container⟩ }

end Registry
end MeasuredJob
