import MeasuredJob.Proofs.Customization.Wrapping

/-!
# The second phase in one step

When all addons only wrap, the second phase comes down to one addition to each container: the
fragments of the addons that target its group, the words of those that target it by name, and all
privileges if one of these asks for them.
-/

namespace MeasuredJob

namespace WrappingAddon

/-- The words around the command of a container after all addons, the innermost first.  Every addon
finds the container as those before it have left it. -/
def wordsAround (group : JobGroup) : List WrappingAddon → Container → List (String × String)
  | [], _ => []
  | a :: as, container =>
    (a.words? group container).toList ++ wordsAround group as (a.apply group container)

/-- Where words do not depend on what is in a container, each addon that wraps adds its own. -/
theorem wordsAround_of_fixed {as : List WrappingAddon}
    (hfixed : ∀ a ∈ as, ∀ c c', a.wrapper.words c = a.wrapper.words c') (group : JobGroup)
    (container : Container) :
    wordsAround group as container =
      (as.filter fun a => a.wraps group container).filterMap
        fun a => a.wrapper.words container := by
  suffices h : ∀ current : Container, current.name = container.name →
      wordsAround group as current = (as.filter fun a => a.wraps group container).filterMap
        fun a => a.wrapper.words container from h container rfl
  induction as with
  | nil => exact fun _ _ => rfl
  | cons a as ih =>
    intro current hname
    have hfixed' : ∀ b ∈ as, ∀ c c', b.wrapper.words c = b.wrapper.words c' :=
      fun b hb => hfixed b (List.mem_cons_of_mem a hb)
    have hrest := ih hfixed' (a.apply group current) hname
    have hwraps : a.wraps group current = a.wraps group container := by
      rw [wraps, wraps, hname]
    rw [wordsAround, hrest, words?, hwraps, List.filter_cons]
    by_cases h : a.wraps group container = true
    · rw [if_pos h, if_pos h, List.filterMap_cons, hfixed a List.mem_cons_self _ container]
      cases a.wrapper.words container <;> rfl
    · rw [if_neg h, if_neg h]
      rfl

theorem foldl_apply (as : List WrappingAddon) (group : JobGroup) (container : Container) :
    as.foldl (fun c a => a.apply group c) container =
      container.customized (as.filterMap fun a => a.fragment? group)
        (wordsAround group as container) (as.any fun a => a.grants group container) := by
  induction as generalizing container with
  | nil => exact container.customized_nil.symm
  | cons a as ih =>
    have hgrants : (fun b : WrappingAddon => b.grants group (a.apply group container)) =
        fun b => b.grants group container := rfl
    have hfragments : (a.fragment? group).toList ++ as.filterMap (fun b => b.fragment? group) =
        (a :: as).filterMap fun b => b.fragment? group := by
      rw [List.filterMap_cons]
      cases a.fragment? group <;> rfl
    rw [List.foldl_cons, ih, hgrants, List.any_cons, wordsAround, ← hfragments,
      ← Container.customized_customized]
    rfl

/-- What the addon does to one container. -/
def visit (a : WrappingAddon) (groups : List JobGroup) (container : Container) : Container :=
  customizeIn a.addon.behaviour.scope a.addon.behaviour.setup a.addon.behaviour.wrap groups
    container

theorem visit_of_standalone (a : WrappingAddon) (groups : List JobGroup) {container : Container}
    (h : container.standalone = true) : a.visit groups container = container := by
  rw [visit, customizeIn, if_pos h]

theorem visit_of_findGroup? (a : WrappingAddon) {groups : List JobGroup} {container : Container}
    {group : JobGroup} (h : container.standalone = false)
    (hgroup : Assembly.findGroup? groups container.jobGroup = some group) :
    a.visit groups container = a.apply group container := by
  rw [visit, customizeIn, if_neg (by simp [h]), hgroup]
  exact a.customizeTargeted_eq_apply group container

/-- `final` is `start` with the additions of the addons in declared order.  When the words of the
addons do not depend on what is in a container, those of each addon that wraps go around the command
once. -/
structure Customizes (as : List WrappingAddon) (groups : List JobGroup)
    (start final : Container) : Prop where
  standalone : start.standalone = true → final = start
  regular : start.standalone = false → ∃ group ∈ groups, group.name = start.jobGroup ∧
    final = start.customized (as.filterMap fun a => a.fragment? group)
      (wordsAround group as start) (as.any fun a => a.grants group start) ∧
    ((∀ a ∈ as, ∀ c c', a.wrapper.words c = a.wrapper.words c') →
      wordsAround group as start = (as.filter fun a => a.wraps group start).filterMap
        fun a => a.wrapper.words start)
  privileged : final.security.privileged = true → start.security.privileged = true ∨
    ∃ a ∈ as, ∃ group ∈ groups, group.name = start.jobGroup ∧ a.wraps group start = true ∧
      a.addon.identifier = Profiler.identifier ∧
      ∃ options, a.addon.behaviour = Profiler.addon options ∧ options.privileged = true

theorem Customizes.exists_eq_customized {as : List WrappingAddon} {groups : List JobGroup}
    {start final : Container} (h : Customizes as groups start final) :
    ∃ fragments words privileged, final = start.customized fragments words privileged := by
  by_cases hstandalone : start.standalone = true
  · exact ⟨[], [], false, (h.standalone hstandalone).trans start.customized_nil.symm⟩
  · obtain ⟨group, -, -, hfinal, -⟩ := h.regular (Bool.eq_false_iff.mpr hstandalone)
    exact ⟨_, _, _, hfinal⟩

theorem Customizes.jobGroup_eq {as : List WrappingAddon} {groups : List JobGroup}
    {start final : Container} (h : Customizes as groups start final) :
    final.jobGroup = start.jobGroup := by
  obtain ⟨fragments, words, privileged, rfl⟩ := h.exists_eq_customized
  rfl

/-- A fragment of a customized container was there before, or an addon that targets the job group
of the container has it for that group. -/
theorem Customizes.mem_pre {as : List WrappingAddon} {groups : List JobGroup}
    {start final : Container} (h : Customizes as groups start final) {fragment : String}
    (hfragment : fragment ∈ final.script.pre) :
    fragment ∈ start.script.pre ∨ ∃ a ∈ as, ∃ group ∈ groups, group.name = start.jobGroup ∧
      a.addon.behaviour.scope.targetsGroup group.name = true ∧
      a.addon.behaviour.setup group = some fragment := by
  by_cases hstandalone : start.standalone = true
  · rw [h.standalone hstandalone] at hfragment
    exact .inl hfragment
  · obtain ⟨group, hgroup, hname, hfinal, -⟩ := h.regular (Bool.eq_false_iff.mpr hstandalone)
    rw [hfinal] at hfragment
    rcases List.mem_append.mp hfragment with hbefore | hadded
    · exact .inl hbefore
    · obtain ⟨a, ha, hsetup⟩ := List.mem_filterMap.mp hadded
      rw [fragment?] at hsetup
      split at hsetup
      · rename_i htarget
        exact .inr ⟨a, ha, group, hgroup, hname, htarget, hsetup⟩
      · cases hsetup

theorem jobGroup_foldl_visit (as : List WrappingAddon) (groups : List JobGroup)
    (container : Container) :
    (as.foldl (fun c a => a.visit groups c) container).jobGroup = container.jobGroup := by
  induction as generalizing container with
  | nil => rfl
  | cons a as ih =>
    have hvisit : (a.visit groups container).jobGroup = container.jobGroup := by
      by_cases hstandalone : container.standalone = true
      · rw [visit_of_standalone a groups hstandalone]
      · cases hgroup : Assembly.findGroup? groups container.jobGroup with
        | none => rw [visit, customizeIn_of_findGroup? hgroup]
        | some group =>
          rw [visit_of_findGroup? a (Bool.eq_false_iff.mpr hstandalone) hgroup]
          rfl
    rw [List.foldl_cons, ih, hvisit]

theorem foldl_visit_of_standalone (as : List WrappingAddon) (groups : List JobGroup)
    {container : Container} (h : container.standalone = true) :
    as.foldl (fun c a => a.visit groups c) container = container := by
  induction as with
  | nil => rfl
  | cons a as ih => rw [List.foldl_cons, visit_of_standalone a groups h, ih]

theorem foldl_visit_of_findGroup? (as : List WrappingAddon) {groups : List JobGroup}
    {container : Container} {group : JobGroup} (h : container.standalone = false)
    (hgroup : Assembly.findGroup? groups container.jobGroup = some group) :
    as.foldl (fun c a => a.visit groups c) container =
      as.foldl (fun c a => a.apply group c) container := by
  induction as generalizing container with
  | nil => rfl
  | cons a as ih =>
    have happly : as.foldl (fun c a => a.visit groups c) (a.apply group container) =
        as.foldl (fun c a => a.apply group c) (a.apply group container) := ih h hgroup
    rw [List.foldl_cons, List.foldl_cons, visit_of_findGroup? a h hgroup, happly]

theorem customizes_foldl_visit (as : List WrappingAddon) {groups : List JobGroup}
    {container : Container}
    (hplaced : ∃ group, Assembly.findGroup? groups container.jobGroup = some group) :
    Customizes as groups container (as.foldl (fun c a => a.visit groups c) container) := by
  obtain ⟨group, hgroup⟩ := hplaced
  obtain ⟨hmem, hname⟩ := Assembly.name_of_findGroup? hgroup
  by_cases hstandalone : container.standalone = true
  · rw [foldl_visit_of_standalone as groups hstandalone]
    exact {
      standalone := fun _ => rfl
      regular := fun h => absurd hstandalone (by simp [h])
      privileged := Or.inl }
  · have hregular : container.standalone = false := Bool.eq_false_iff.mpr hstandalone
    rw [foldl_visit_of_findGroup? as hregular hgroup, foldl_apply]
    refine {
      standalone := fun h => absurd h hstandalone
      regular := fun _ => ⟨group, hmem, hname, rfl, fun hfixed =>
        wordsAround_of_fixed hfixed group container⟩
      privileged := fun h => ?_ }
    rcases (Bool.or_eq_true _ _).mp h with hstart | hany
    · exact Or.inl hstart
    · obtain ⟨a, ha, hgrants⟩ := List.any_eq_true.mp hany
      obtain ⟨hwraps, hprofiler⟩ := profiler_of_grants hgrants
      exact Or.inr ⟨a, ha, group, hmem, hname, hwraps, hprofiler⟩

end WrappingAddon

/-- The second phase takes every container through the addons in declared order. -/
theorem Assembly.containers_customize {as : List WrappingAddon} {a b : Assembly}
    (hnames : (a.groups.map JobGroup.name).Nodup)
    (h : a.customize (as.map WrappingAddon.addon) = .ok b) :
    b.containers = a.containers.map fun c => as.foldl (fun c w => w.visit a.groups c) c := by
  have hlocal : ∀ addon ∈ as.map WrappingAddon.addon, addon.behaviour.IsLocal := by
    intro addon haddon
    obtain ⟨w, -, rfl⟩ := List.mem_map.mp haddon
    exact w.describes.isLocal
  rw [containers_customize_of_isLocal hlocal hnames h]
  refine List.map_congr_left fun c _ => ?_
  rw [visitAll, List.foldl_map]
  rfl

end MeasuredJob
