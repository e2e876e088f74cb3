import Mathlib.Data.List.Induction
import MeasuredJob.Proofs.Assembly.Monitors

/-!
# Merging job groups

Job groups are merged one after another into a list that starts empty.  What comes out has one group
for each name, in the order in which the names first appeared.  The first group of a name decides
the replicas and all of them together decide whether processes are shared, so the order of the
groups matters for the replicas and not for the sharing.  Merging the same groups again finds every
name there and nothing to add.
-/

namespace MeasuredJob
namespace JobGroup

/-- What `other` makes of the group when it is merged with it. -/
def joined (group other : JobGroup) : JobGroup :=
  if group.name = other.name then
    { group with sharesProcesses := group.sharesProcesses || other.sharesProcesses }
  else group

@[simp] theorem name_joined (group other : JobGroup) : (group.joined other).name = group.name := by
  rw [joined]
  split <;> rfl

@[simp] theorem replicas_joined (group other : JobGroup) :
    (group.joined other).replicas = group.replicas := by
  rw [joined]
  split <;> rfl

theorem joined_of_ne {group other : JobGroup} (h : group.name ≠ other.name) :
    group.joined other = group :=
  if_neg h

/-- The name of a group, with whether it shares processes. -/
def sharing (group : JobGroup) : String × Bool :=
  (group.name, group.sharesProcesses)

/-- There is nothing to add to a group that shares processes if the other one does. -/
theorem joined_eq_self {group other : JobGroup} (hname : group.name = other.name)
    (h : other.sharesProcesses = true → group.sharesProcesses = true) :
    group.joined other = group := by
  have hflag : (group.sharesProcesses || other.sharesProcesses) = group.sharesProcesses := by
    cases hother : other.sharesProcesses with
    | false => exact Bool.or_false _
    | true => rw [h hother, Bool.or_true]
  rw [joined, if_pos hname, hflag]

end JobGroup

namespace Assembly

/-! ## One merge -/

theorem mergeGroup_of_hasGroup {groups : List JobGroup} {group : JobGroup}
    (h : hasGroup groups group.name = true) :
    mergeGroup groups group = groups.map (·.joined group) :=
  if_pos h

theorem mergeGroup_of_fresh {groups : List JobGroup} {group : JobGroup}
    (h : hasGroup groups group.name = false) : mergeGroup groups group = groups ++ [group] :=
  if_neg (Bool.eq_false_iff.mp h)

/-- Where names are distinct, a merge changes no more than the one group of that name. -/
theorem mergeGroup_append_cons {front back : List JobGroup} {g group : JobGroup}
    (hnodup : ((front ++ g :: back).map JobGroup.name).Nodup) (hname : g.name = group.name) :
    mergeGroup (front ++ g :: back) group = front ++ g.joined group :: back := by
  have hmoved : ((g :: (front ++ back)).map JobGroup.name).Nodup :=
    (List.perm_middle.symm.map JobGroup.name).nodup_iff.mpr hnodup
  have hothers : ∀ other ∈ front ++ back, other.joined group = other := by
    rw [List.map_cons, List.nodup_cons, hname] at hmoved
    exact fun other hother => JobGroup.joined_of_ne fun heq =>
      hmoved.1 (heq ▸ List.mem_map_of_mem hother)
  rw [List.forall_mem_append] at hothers
  have hthere : hasGroup (front ++ g :: back) group.name = true := by
    rw [hasGroup_iff, ← hname]
    exact List.mem_map_of_mem (List.mem_append_right _ List.mem_cons_self)
  rw [mergeGroup_of_hasGroup hthere, List.map_append, List.map_cons,
    List.map_congr_left hothers.1, List.map_congr_left hothers.2, List.map_id', List.map_id']

theorem findGroup?_append (groups more : List JobGroup) (name : String) :
    findGroup? (groups ++ more) name = (findGroup? groups name).or (findGroup? more name) :=
  List.find?_append

theorem findGroup?_map_joined (groups : List JobGroup) (group : JobGroup) (name : String) :
    findGroup? (groups.map (·.joined group)) name =
      (findGroup? groups name).map (·.joined group) := by
  rw [findGroup?, List.find?_map, findGroup?]
  simp only [Function.comp_def, JobGroup.name_joined]

theorem findGroup?_of_mem {groups : List JobGroup} (hnodup : (groups.map JobGroup.name).Nodup)
    {g : JobGroup} (hg : g ∈ groups) : findGroup? groups g.name = some g := by
  rw [findGroup?, find?_eq_some_iff_of_unique]
  · exact ⟨hg, beq_self_eq_true g.name⟩
  · intro a ha b hb hname hname'
    exact List.inj_on_of_nodup_map hnodup ha hb
      ((beq_iff_eq.mp hname).trans (beq_iff_eq.mp hname').symm)

/-- After a merge a name still stands for the replicas of its first group. -/
theorem replicas_mergeGroup (groups : List JobGroup) (group : JobGroup) (name : String) :
    (findGroup? (mergeGroup groups group) name).map JobGroup.replicas =
      (findGroup? (groups ++ [group]) name).map JobGroup.replicas := by
  cases hthere : hasGroup groups group.name with
  | false => rw [mergeGroup_of_fresh hthere]
  | true =>
    have hfound : findGroup? (groups ++ [group]) name = findGroup? groups name := by
      rw [findGroup?_append]
      cases hname : findGroup? groups name with
      | some g => rfl
      | none =>
        -- The name is none of those that are there, so it is not that of the group either.
        rw [Option.none_or, findGroup?_eq_none_iff]
        intro hmem
        rw [List.map_singleton, List.mem_singleton] at hmem
        rw [hasGroup_iff, ← hmem] at hthere
        exact findGroup?_eq_none_iff.mp hname hthere
    rw [mergeGroup_of_hasGroup hthere, findGroup?_map_joined, hfound, Option.map_map]
    simp only [Function.comp_def, JobGroup.replicas_joined]

/-! ## A run of merges -/

theorem replicas_mergeGroups (groups more : List JobGroup) (name : String) :
    (findGroup? (mergeGroups groups more) name).map JobGroup.replicas =
      (findGroup? (groups ++ more) name).map JobGroup.replicas := by
  induction more generalizing groups with
  | nil => rw [List.append_nil, mergeGroups, List.foldl_nil]
  | cons group more ih =>
    rw [mergeGroups, List.foldl_cons, ← mergeGroups, ih, List.append_cons, findGroup?_append,
      findGroup?_append, Option.map_or, Option.map_or, replicas_mergeGroup]

theorem eraseDups_concat (names : List String) (name : String) :
    (names ++ [name]).eraseDups =
      if name ∈ names then names.eraseDups else names.eraseDups ++ [name] := by
  rw [List.eraseDups_append]
  by_cases hmem : name ∈ names
  · have hnone : [name].removeAll names = [] := by
      simp [List.removeAll, hmem]
    rw [if_pos hmem, hnone, List.eraseDups_nil, List.append_nil]
  · have hone : [name].removeAll names = [name] := by
      simp [List.removeAll, hmem]
    rw [if_neg hmem, hone]
    rfl

/-- The names come in the order in which they first appeared. -/
theorem names_mergeGroups (groups : List JobGroup) :
    (mergeGroups [] groups).map JobGroup.name = (groups.map JobGroup.name).eraseDups := by
  induction groups using List.reverseRecOn with
  | nil => rfl
  | append_singleton groups group ih =>
    have hrun : mergeGroups [] (groups ++ [group]) = mergeGroup (mergeGroups [] groups) group := by
      rw [mergeGroups, List.foldl_append, List.foldl_cons, List.foldl_nil, mergeGroups]
    rw [hrun, names_mergeGroup, ih, List.map_append, List.map_singleton, eraseDups_concat]
    exact if_congr List.mem_eraseDups rfl rfl

theorem nodup_names_mergeGroups (groups : List JobGroup) :
    ((mergeGroups [] groups).map JobGroup.name).Nodup :=
  nodup_mergeGroups groups List.nodup_nil

theorem sharesProcesses_iff_of_merged {groups : List JobGroup} {g : JobGroup}
    (hg : g ∈ mergeGroups [] groups) : g.sharesProcesses = true ↔ SharesIn groups g.name := by
  rw [sharesProcesses_iff_of_mem (nodup_names_mergeGroups groups) hg, sharesIn_mergeGroups,
    List.nil_append]

theorem mem_sharing_iff {groups : List JobGroup} {name : String} {shares : Bool} :
    (name, shares) ∈ (mergeGroups [] groups).map JobGroup.sharing ↔
      name ∈ groups.map JobGroup.name ∧ (shares = true ↔ SharesIn groups name) := by
  have hnames : name ∈ groups.map JobGroup.name ↔
      name ∈ (mergeGroups [] groups).map JobGroup.name := by
    rw [names_mergeGroups, List.mem_eraseDups]
  rw [hnames, List.mem_map, List.mem_map]
  constructor
  · rintro ⟨g, hg, heq⟩
    obtain ⟨rfl, rfl⟩ := Prod.mk.inj heq
    exact ⟨⟨g, hg, rfl⟩, sharesProcesses_iff_of_merged hg⟩
  · rintro ⟨⟨g, hg, rfl⟩, hshares⟩
    have hsame : g.sharesProcesses = shares :=
      Bool.eq_iff_iff.mpr ((sharesProcesses_iff_of_merged hg).trans hshares.symm)
    exact ⟨g, hg, Prod.ext rfl hsame⟩

/-- Which names share processes does not depend on the order of the groups. -/
theorem sharing_perm {groups others : List JobGroup} (h : others.Perm groups) :
    ((mergeGroups [] others).map JobGroup.sharing).Perm
      ((mergeGroups [] groups).map JobGroup.sharing) := by
  have hnodup (groups : List JobGroup) : ((mergeGroups [] groups).map JobGroup.sharing).Nodup := by
    refine List.Nodup.of_map Prod.fst ?_
    rw [List.map_map]
    exact nodup_names_mergeGroups groups
  rw [List.perm_ext_iff_of_nodup (hnodup others) (hnodup groups)]
  rintro ⟨name, shares⟩
  have hshares : SharesIn others name ↔ SharesIn groups name := by
    simp only [SharesIn, h.mem_iff]
  rw [mem_sharing_iff, mem_sharing_iff, (h.map JobGroup.name).mem_iff, hshares]

/-- A group that was merged already has nothing to add. -/
theorem mergeGroup_of_mem {groups : List JobGroup} {group : JobGroup} (h : group ∈ groups) :
    mergeGroup (mergeGroups [] groups) group = mergeGroups [] groups := by
  have hname : group.name ∈ (mergeGroups [] groups).map JobGroup.name := by
    rw [names_mergeGroups, List.mem_eraseDups]
    exact List.mem_map_of_mem h
  obtain ⟨g, hg, hgroup⟩ := List.mem_map.mp hname
  have hshares : group.sharesProcesses = true → g.sharesProcesses = true := fun hshares =>
    (sharesProcesses_iff_of_merged hg).mpr ⟨group, h, hgroup.symm, hshares⟩
  have hnodup := nodup_names_mergeGroups groups
  obtain ⟨front, back, hsplit⟩ := List.append_of_mem hg
  rw [hsplit] at hnodup ⊢
  rw [mergeGroup_append_cons hnodup hgroup, JobGroup.joined_eq_self hgroup hshares]

theorem mergeGroups_again (groups : List JobGroup) :
    mergeGroups (mergeGroups [] groups) groups = mergeGroups [] groups := by
  have hfixed : ∀ more, more ⊆ groups →
      mergeGroups (mergeGroups [] groups) more = mergeGroups [] groups := by
    intro more hmore
    induction more with
    | nil => rfl
    | cons group more ih =>
      rw [List.cons_subset] at hmore
      rw [mergeGroups, List.foldl_cons, mergeGroup_of_mem hmore.1]
      exact ih hmore.2
  exact hfixed groups (List.Subset.refl groups)

/-- What a sequence of job groups is merged into. -/
structure Merges (groups merged : List JobGroup) : Prop where
  /-- Each name comes once, in the order in which names first appear. -/
  names : merged.map JobGroup.name = (groups.map JobGroup.name).eraseDups
  distinct : (merged.map JobGroup.name).Nodup
  /-- The first group of a name decides the replicas. -/
  replicas : ∀ g ∈ merged, ∃ first,
    findGroup? groups g.name = some first ∧ g.replicas = first.replicas
  /-- Any group of a name decides that processes are shared. -/
  shares : ∀ g ∈ merged, g.sharesProcesses = true ↔
    ∃ h ∈ groups, h.name = g.name ∧ h.sharesProcesses = true
  unordered : ∀ others : List JobGroup, others.Perm groups →
    ((mergeGroups [] others).map JobGroup.sharing).Perm (merged.map JobGroup.sharing)
  again : mergeGroups merged groups = merged

/-- Groups merged one by one into none: the first of a name decides the place and the replicas, and
all of them decide the sharing of processes. -/
theorem merges_by_name (groups : List JobGroup) : Merges groups (mergeGroups [] groups) where
  names := names_mergeGroups groups
  distinct := nodup_names_mergeGroups groups
  replicas g hg := by
    have hfound := findGroup?_of_mem (nodup_names_mergeGroups groups) hg
    have hreplicas := replicas_mergeGroups [] groups g.name
    rw [hfound, Option.map_some, List.nil_append] at hreplicas
    obtain ⟨first, hfirst, heq⟩ := Option.map_eq_some_iff.mp hreplicas.symm
    exact ⟨first, hfirst, heq.symm⟩
  shares _ hg := sharesProcesses_iff_of_merged hg
  unordered _ := sharing_perm
  again := mergeGroups_again groups

example :
    mergeGroups [] [{ name := "m", replicas := 2 }, { name := "launcher", replicas := 1 },
        { name := "m", replicas := 5, sharesProcesses := true }] =
      [{ name := "m", replicas := 2, sharesProcesses := true },
        { name := "launcher", replicas := 1 }] := by
  decide

end Assembly
end MeasuredJob
