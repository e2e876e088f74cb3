import MeasuredJob.Proofs.Assembly.Groups

/-!
# Scoped customization, container by container

A scoped addon goes through the targeted job groups, and through all containers for each of them.
Since the names of job groups are distinct and a wrap leaves a container in its group, each
container is visited at most once: what happens to it depends on its own group alone.  So when all
addons are of this kind, the second phase takes every container through them by itself.
-/

namespace MeasuredJob

section

variable (scope : Scope) (setup : JobGroup → Option String) (wrap : Container → Container)

/-- What a scoped addon does to a container of `group` that is not standalone. -/
def customizeTargeted (group : JobGroup) (container : Container) : Container :=
  if scope.targetsGroup group.name then customizeContainer scope setup wrap group container
  else container

/-- What a scoped addon does to one container. -/
def customizeIn (groups : List JobGroup) (container : Container) : Container :=
  if container.standalone then container
  else match Assembly.findGroup? groups container.jobGroup with
    | some group => customizeTargeted scope setup wrap group container
    | none => container

end

variable {scope : Scope} {setup : JobGroup → Option String} {wrap : Container → Container}

theorem jobGroup_customizeContainer (hwrap : ∀ c, (wrap c).jobGroup = c.jobGroup)
    (group : JobGroup) (container : Container) :
    (customizeContainer scope setup wrap group container).jobGroup = container.jobGroup := by
  have hwrapped : ∀ prepared : Container,
      (if scope.targetsContainer prepared.name then wrap prepared else prepared).jobGroup =
        prepared.jobGroup := by
    intro prepared
    split
    · exact hwrap prepared
    · rfl
  rw [customizeContainer]
  cases setup group with
  | none => exact hwrapped container
  | some fragment => exact hwrapped (container.appendPre fragment)

theorem customizeIn_of_findGroup? {groups : List JobGroup} {container : Container}
    (h : Assembly.findGroup? groups container.jobGroup = none) :
    customizeIn scope setup wrap groups container = container := by
  rw [customizeIn, h]
  split <;> rfl

/-- One round of the loop over the groups, on one container. -/
theorem customizeIn_cons {group : JobGroup} {groups : List JobGroup}
    (hfresh : group.name ∉ groups.map JobGroup.name)
    (hwrap : ∀ c, (wrap c).jobGroup = c.jobGroup) (container : Container) :
    customizeIn scope setup wrap (group :: groups) container =
      customizeIn scope setup wrap groups
        (if container.jobGroup = group.name ∧ container.standalone = false then
          customizeTargeted scope setup wrap group container
        else container) := by
  by_cases hgroup : container.jobGroup = group.name
  · have hfound : Assembly.findGroup? (group :: groups) container.jobGroup = some group := by
      rw [Assembly.findGroup?, List.find?_cons, hgroup, beq_self_eq_true]
    have hnone : Assembly.findGroup? groups container.jobGroup = none :=
      Assembly.findGroup?_eq_none_iff.mpr (hgroup ▸ hfresh)
    by_cases hstandalone : container.standalone = true
    · rw [if_neg (by simp [hstandalone]), customizeIn_of_findGroup? hnone, customizeIn,
        if_pos hstandalone]
    · have hkept : (customizeTargeted scope setup wrap group container).jobGroup =
          container.jobGroup := by
        rw [customizeTargeted]
        split
        · exact jobGroup_customizeContainer hwrap group container
        · rfl
      have hdone : customizeIn scope setup wrap groups
          (customizeTargeted scope setup wrap group container) =
            customizeTargeted scope setup wrap group container := by
        refine customizeIn_of_findGroup? ?_
        rw [hkept]
        exact hnone
      rw [if_pos ⟨hgroup, Bool.eq_false_iff.mpr hstandalone⟩, hdone, customizeIn,
        if_neg hstandalone, hfound]
  · have hskip : Assembly.findGroup? (group :: groups) container.jobGroup =
        Assembly.findGroup? groups container.jobGroup := by
      have hne : (group.name == container.jobGroup) = false :=
        beq_eq_false_iff_ne.mpr fun h => hgroup h.symm
      rw [Assembly.findGroup?, List.find?_cons, hne]
      rfl
    rw [if_neg fun h => hgroup h.1, customizeIn, customizeIn, hskip]

/-- The loops of a scoped addon treat every container by itself. -/
theorem customizeScoped_eq_map {groups : List JobGroup}
    (hnames : (groups.map JobGroup.name).Nodup) (hwrap : ∀ c, (wrap c).jobGroup = c.jobGroup)
    (containers : List Container) :
    customizeScoped scope setup wrap groups containers =
      containers.map (customizeIn scope setup wrap groups) := by
  induction groups generalizing containers with
  | nil =>
    have hnothing : customizeIn scope setup wrap [] = id :=
      funext fun container => customizeIn_of_findGroup? rfl
    rw [hnothing, List.map_id]
    rfl
  | cons group groups ih =>
    rw [List.map_cons, List.nodup_cons] at hnames
    have hround : customizeScoped scope setup wrap (group :: groups) containers =
        customizeScoped scope setup wrap groups (containers.map fun c =>
          if c.jobGroup = group.name ∧ c.standalone = false then
            customizeTargeted scope setup wrap group c
          else c) := by
      rw [customizeScoped, List.filter_cons]
      by_cases htarget : scope.targetsGroup group.name = true
      · rw [if_pos htarget, List.foldl_cons, ← customizeScoped, customizeGroup]
        simp only [customizeTargeted, if_pos htarget]
      · rw [if_neg htarget, ← customizeScoped]
        simp only [customizeTargeted, if_neg htarget, ite_self, List.map_id']
    rw [hround, ih hnames.2, List.map_map]
    exact List.map_congr_left fun c _ => (customizeIn_cons hnames.1 hwrap c).symm

/-! ## The second phase -/

/-- What an addon that customizes by its scope does to one container. -/
def Addon.visit (addon : Addon) (groups : List JobGroup) (container : Container) : Container :=
  customizeIn addon.scope addon.setup addon.wrap groups container

/-- What such addons do to one container. -/
def visitAll (groups : List JobGroup) (addons : List (Configured Addon)) (container : Container) :
    Container :=
  addons.foldl (fun c addon => addon.behaviour.visit groups c) container

theorem visitAll_concat (groups : List JobGroup) (addons : List (Configured Addon))
    (addon : Configured Addon) (container : Container) :
    visitAll groups (addons ++ [addon]) container =
      addon.behaviour.visit groups (visitAll groups addons container) := by
  rw [visitAll, List.foldl_append]
  rfl

/-- The addon customizes by its scope, and leaves every container in its job group. -/
structure Addon.IsLocal (addon : Addon) : Prop where
  isScoped : addon.IsScoped
  jobGroup_wrap : ∀ c, (addon.wrap c).jobGroup = c.jobGroup

theorem Addon.IsLocal.customize_eq {addon : Addon} (h : addon.IsLocal) {groups : List JobGroup}
    (hnames : (groups.map JobGroup.name).Nodup) (containers : List Container) :
    addon.customize groups containers =
      .ok ⟨containers.map (addon.visit groups), List.length_map _⟩ := by
  rw [h.isScoped]
  exact congrArg Except.ok (Subtype.ext (customizeScoped_eq_map hnames h.jobGroup_wrap containers))

namespace Assembly

open Success

theorem containers_customizeBy_of_isLocal {a b : Assembly} {addon : Configured Addon} {index : ℕ}
    (hlocal : addon.behaviour.IsLocal) (hnames : (a.groups.map JobGroup.name).Nodup)
    (h : customizeBy a (addon, index) = .ok b) :
    b.containers = a.containers.map (addon.behaviour.visit a.groups) := by
  obtain ⟨revised, hrevised, -, rfl⟩ := customizeBy_eq_ok_iff.mp h
  rw [hlocal.customize_eq hnames] at hrevised
  cases hrevised
  rfl

/-- The second phase takes every container through the addons in declared order. -/
theorem containers_customize_of_isLocal {addons : List (Configured Addon)} {a b : Assembly}
    (hlocal : ∀ addon ∈ addons, addon.behaviour.IsLocal)
    (hnames : (a.groups.map JobGroup.name).Nodup) (h : a.customize addons = .ok b) :
    b.containers = a.containers.map (visitAll a.groups addons) := by
  suffices hfrom : ∀ (n : ℕ) (a : Assembly), (a.groups.map JobGroup.name).Nodup →
      (addons.zipIdx n).foldlM customizeBy a = .ok b →
        b.containers = a.containers.map (visitAll a.groups addons) from hfrom 0 a hnames h
  clear h hnames a
  induction addons with
  | nil =>
    intro n a _ h
    cases h
    exact (List.map_id _).symm
  | cons addon addons ih =>
    intro n a hnames h
    rw [List.zipIdx_cons, List.foldlM_cons, bind_eq_ok_iff] at h
    obtain ⟨a', hstep, hrest⟩ := h
    have hgroups : a'.groups = a.groups := groups_customizeBy hstep
    rw [ih (fun addon haddon => hlocal addon (List.mem_cons_of_mem _ haddon)) (n + 1) a'
      (hgroups ▸ hnames) hrest, containers_customizeBy_of_isLocal (hlocal addon List.mem_cons_self)
      hnames hstep, hgroups, List.map_map]
    rfl

end Assembly
end MeasuredJob
