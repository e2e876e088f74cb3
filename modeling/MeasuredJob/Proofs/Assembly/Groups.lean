import MeasuredJob.Proofs.Assembly.Steps

/-!
# Job groups of an assembly

Merging keeps the names of job groups distinct, and no step of either phase takes a group away or
renames one.  So a name stands for one group from the first contribution to the end, which the
scoped customization of addons and the rendering of scripts rely on.  Whatever plugins ask for,
every container starts in a group that is there.
-/

namespace MeasuredJob
namespace Assembly

open Success

/-! ## Looking up a group -/

theorem hasGroup_iff {groups : List JobGroup} {name : String} :
    hasGroup groups name = true ↔ name ∈ groups.map JobGroup.name := by
  simp [hasGroup]

theorem name_of_findGroup? {groups : List JobGroup} {name : String} {g : JobGroup}
    (h : findGroup? groups name = some g) : g ∈ groups ∧ g.name = name :=
  ⟨List.mem_of_find?_eq_some h, by simpa using List.find?_some h⟩

theorem findGroup?_eq_none_iff {groups : List JobGroup} {name : String} :
    findGroup? groups name = none ↔ name ∉ groups.map JobGroup.name := by
  simp [findGroup?]

theorem exists_findGroup?_of_hasGroup {groups : List JobGroup} {name : String}
    (h : hasGroup groups name = true) : ∃ group, findGroup? groups name = some group := by
  cases hgroup : findGroup? groups name with
  | none => exact absurd (hasGroup_iff.mp h) (findGroup?_eq_none_iff.mp hgroup)
  | some group => exact ⟨group, rfl⟩

theorem hasGroup_of_findGroup? {groups : List JobGroup} {name : String} {group : JobGroup}
    (h : findGroup? groups name = some group) : hasGroup groups name = true := by
  obtain ⟨hmem, rfl⟩ := name_of_findGroup? h
  exact hasGroup_iff.mpr (List.mem_map_of_mem hmem)

/-! ## Merging -/

theorem names_mergeGroup (groups : List JobGroup) (group : JobGroup) :
    (mergeGroup groups group).map JobGroup.name =
      if group.name ∈ groups.map JobGroup.name then groups.map JobGroup.name
      else groups.map JobGroup.name ++ [group.name] := by
  have hany : (groups.any fun g => g.name == group.name) = true ↔
      group.name ∈ groups.map JobGroup.name := by
    simp
  rw [mergeGroup]
  by_cases hmem : group.name ∈ groups.map JobGroup.name
  · rw [if_pos (hany.mpr hmem), if_pos hmem, List.map_map]
    refine List.map_congr_left fun g _ => ?_
    show (if g.name = group.name then _ else g).name = g.name
    split <;> rfl
  · rw [if_neg (fun h => hmem (hany.mp h)), if_neg hmem, List.map_append]
    rfl

theorem nodup_mergeGroup {groups : List JobGroup} (group : JobGroup)
    (h : (groups.map JobGroup.name).Nodup) :
    ((mergeGroup groups group).map JobGroup.name).Nodup := by
  rw [names_mergeGroup]
  split
  · exact h
  · rename_i hnot
    rw [List.nodup_append]
    refine ⟨h, by simp, fun a ha b hb hab => hnot ?_⟩
    rw [List.mem_singleton] at hb
    exact hb ▸ hab ▸ ha

theorem nodup_mergeGroups {groups : List JobGroup} (more : List JobGroup)
    (h : (groups.map JobGroup.name).Nodup) :
    ((mergeGroups groups more).map JobGroup.name).Nodup := by
  induction more generalizing groups with
  | nil => exact h
  | cons group more ih => exact ih (nodup_mergeGroup group h)

theorem mem_names_mergeGroups {groups more : List JobGroup} {name : String} :
    name ∈ (mergeGroups groups more).map JobGroup.name ↔
      name ∈ groups.map JobGroup.name ∨ name ∈ more.map JobGroup.name := by
  induction more generalizing groups with
  | nil => simp [mergeGroups]
  | cons group more ih =>
    have hfirst : name ∈ (mergeGroup groups group).map JobGroup.name ↔
        name ∈ groups.map JobGroup.name ∨ name = group.name := by
      rw [names_mergeGroup]
      by_cases hmem : group.name ∈ groups.map JobGroup.name
      · rw [if_pos hmem]
        exact (or_iff_left_of_imp fun h => h ▸ hmem).symm
      · rw [if_neg hmem, List.mem_append, List.mem_singleton]
    rw [mergeGroups, List.foldl_cons, ← mergeGroups, ih, hfirst, List.map_cons, List.mem_cons,
      or_assoc]

/-- Where no name comes twice, nothing is merged. -/
theorem mergeGroups_of_nodup {groups more : List JobGroup}
    (h : ((groups ++ more).map JobGroup.name).Nodup) : mergeGroups groups more = groups ++ more := by
  induction more generalizing groups with
  | nil => exact (List.append_nil groups).symm
  | cons group more ih =>
    rw [List.append_cons] at h ⊢
    have hfresh : (groups.any fun g => g.name == group.name) = false := by
      rw [List.map_append, List.map_append, List.map_singleton, List.nodup_append,
        List.nodup_append] at h
      refine List.any_eq_false.mpr fun g hg heq => ?_
      exact h.1.2.2 g.name (List.mem_map_of_mem hg) group.name (List.mem_singleton_self _)
        (beq_iff_eq.mp heq)
    rw [mergeGroups, List.foldl_cons, ← mergeGroups, mergeGroup, hfresh]
    exact ih h

/-- Metrics add their job groups one after another. -/
theorem groups_addMetrics {ctx : Context} {entries : List (Configured Metric × Nat)}
    {a b : Assembly} (h : entries.foldlM (addMetric ctx) a = .ok b) :
    b.groups = mergeGroups a.groups
      (entries.flatMap fun entry => metricGroups ctx entry.1.behaviour) := by
  induction entries generalizing a with
  | nil =>
    rw [List.foldlM_nil, pure_eq_ok_iff] at h
    rw [h]
    rfl
  | cons entry entries ih =>
    rw [List.foldlM_cons, bind_eq_ok_iff] at h
    obtain ⟨a', hstep, hrest⟩ := h
    obtain ⟨-, containers, -, -, rfl⟩ := addMetric_eq_ok_iff.mp hstep
    rw [ih hrest, List.flatMap_cons, mergeGroups, mergeGroups, mergeGroups, List.foldl_append]

theorem mem_names_addMetrics {ctx : Context} {entries : List (Configured Metric × Nat)}
    {a b : Assembly} (h : entries.foldlM (addMetric ctx) a = .ok b) {name : String} :
    name ∈ b.groups.map JobGroup.name ↔ name ∈ a.groups.map JobGroup.name ∨
      ∃ entry ∈ entries, name ∈ (metricGroups ctx entry.1.behaviour).map JobGroup.name := by
  rw [groups_addMetrics h, mem_names_mergeGroups, List.map_flatMap, List.mem_flatMap]

/-- The job groups that metrics contribute are all there in the end, and no others. -/
theorem mem_names_metrics {ctx : Context} {metrics : List (Configured Metric)} {a : Assembly}
    (h : metrics.zipIdx.foldlM (addMetric ctx) {} = .ok a) {name : String} :
    name ∈ a.groups.map JobGroup.name ↔
      ∃ metric ∈ metrics, name ∈ (metricGroups ctx metric.behaviour).map JobGroup.name := by
  rw [mem_names_addMetrics h]
  constructor
  · rintro (hnone | ⟨⟨metric, index⟩, hentry, hname⟩)
    · exact absurd hnone List.not_mem_nil
    · exact ⟨metric, List.fst_mem_of_mem_zipIdx hentry, hname⟩
  · rintro ⟨metric, hmetric, hname⟩
    obtain ⟨index, hindex⟩ := List.mem_iff_getElem?.mp hmetric
    exact .inr ⟨(metric, index), List.mem_zipIdx_iff_getElem?.mpr hindex, hname⟩

/-! ## Both phases -/

theorem groups_addAddon {ctx : Context} {a b : Assembly} {entry : Configured Addon × Nat}
    (h : addAddon ctx a entry = .ok b) : b.groups = a.groups := by
  obtain ⟨-, contributed, -, rfl⟩ := addAddon_eq_ok_iff.mp h
  rfl

theorem groups_customizeBy {a b : Assembly} {entry : Configured Addon × Nat}
    (h : customizeBy a entry = .ok b) : b.groups = a.groups := by
  obtain ⟨revised, -, -, rfl⟩ := customizeBy_eq_ok_iff.mp h
  rfl

theorem volumes_customizeBy {a b : Assembly} {entry : Configured Addon × Nat}
    (h : customizeBy a entry = .ok b) : b.volumes = a.volumes := by
  obtain ⟨revised, -, -, rfl⟩ := customizeBy_eq_ok_iff.mp h
  rfl

theorem groups_addAddons {ctx : Context} {entries : List (Configured Addon × Nat)} {a b : Assembly}
    (h : entries.foldlM (addAddon ctx) a = .ok b) : b.groups = a.groups :=
  foldlM_induct (motive := fun b : Assembly => b.groups = a.groups) h rfl
    fun _ _ _ _ hb hstep => (groups_addAddon hstep).trans hb

/-- The first phase ends with distinct names of job groups. -/
theorem nodup_groups_assemble {ctx : Context} {resolution : Resolution} {a : Assembly}
    (h : assemble ctx resolution = .ok a) : (a.groups.map JobGroup.name).Nodup := by
  obtain ⟨ofMetrics, hmetrics, haddons⟩ := assemble_eq_ok_iff.mp h
  have hnames : (ofMetrics.groups.map JobGroup.name).Nodup := by
    refine foldlM_induct (motive := fun a : Assembly => (a.groups.map JobGroup.name).Nodup)
      hmetrics List.nodup_nil fun entry _ b b' hb hstep => ?_
    obtain ⟨-, containers, -, -, rfl⟩ := addMetric_eq_ok_iff.mp hstep
    exact nodup_mergeGroups _ hb
  rw [groups_addAddons haddons]
  exact hnames

/-- Every container runs in a job group that is there. -/
def Placed (assembly : Assembly) : Prop :=
  ∀ c ∈ assembly.containers, hasGroup assembly.groups c.jobGroup = true

theorem placed_addMetric {ctx : Context} {a b : Assembly} {entry : Configured Metric × Nat}
    (h : addMetric ctx a entry = .ok b) (ha : a.Placed) : b.Placed := by
  obtain ⟨-, containers, -, hplaced, rfl⟩ := addMetric_eq_ok_iff.mp h
  intro c hc
  rcases List.mem_append.mp hc with hc | hc
  · exact hasGroup_iff.mpr (mem_names_mergeGroups.mpr (.inl (hasGroup_iff.mp (ha c hc))))
  · exact hplaced c hc

/-- The application joins its monitors in their job group. -/
theorem placed_applicationContainers {ctx : Context} {metrics : List (Configured Metric)}
    {a : Assembly} (h : metrics.zipIdx.foldlM (addMetric ctx) {} = .ok a) :
    ∀ c ∈ applicationContainers ctx metrics, hasGroup a.groups c.jobGroup = true := by
  intro c hc
  rw [applicationContainers] at hc
  split at hc
  · rename_i hmonitor
    obtain ⟨app, -, rfl⟩ := Option.map_eq_some_iff.mp (Option.mem_toList.mp hc)
    obtain ⟨metric, hmetric, hkind⟩ := List.any_eq_true.mp hmonitor
    refine hasGroup_iff.mpr ((mem_names_metrics h).mpr ⟨metric, hmetric, ?_⟩)
    rw [metricGroups, beq_iff_eq.mp hkind]
    exact List.mem_singleton_self _
  · exact absurd hc List.not_mem_nil

theorem placed_addAddon {ctx : Context} {a b : Assembly} {entry : Configured Addon × Nat}
    (h : addAddon ctx a entry = .ok b) (ha : a.Placed) : b.Placed := by
  obtain ⟨-, new, hnew, rfl⟩ := addAddon_eq_ok_iff_contribution.mp h
  intro c hc
  rcases List.mem_append.mp hc with hc | hc
  · exact ha c hc
  · obtain ⟨group, hgroup, -, containers, -, c', -, rfl⟩ := exists_of_mem_contribution hnew hc
    exact hasGroup_iff.mpr (List.mem_map_of_mem hgroup)

/-- The first phase puts every container into a job group that is there. -/
theorem placed_assemble {ctx : Context} {resolution : Resolution} {a : Assembly}
    (h : assemble ctx resolution = .ok a) : a.Placed := by
  obtain ⟨ofMetrics, hmetrics, haddons⟩ := assemble_eq_ok_iff.mp h
  have hplaced : ofMetrics.Placed :=
    foldlM_induct (motive := Placed) hmetrics (fun c hc => absurd hc List.not_mem_nil)
      fun _ _ _ _ hb hstep => placed_addMetric hstep hb
  refine foldlM_induct (motive := Placed) haddons (fun c hc => ?_)
    fun _ _ _ _ hb hstep => placed_addAddon hstep hb
  rcases List.mem_append.mp hc with hc | hc
  · exact hplaced c hc
  · exact placed_applicationContainers hmetrics c hc

/-- The first phase ends with the job groups of the metrics. -/
theorem mem_names_assemble {ctx : Context} {resolution : Resolution} {a : Assembly}
    (h : assemble ctx resolution = .ok a) {name : String} :
    name ∈ a.groups.map JobGroup.name ↔ ∃ metric ∈ resolution.metrics,
      name ∈ (metricGroups ctx metric.behaviour).map JobGroup.name := by
  obtain ⟨ofMetrics, hmetrics, haddons⟩ := assemble_eq_ok_iff.mp h
  rw [groups_addAddons haddons]
  exact mem_names_metrics hmetrics

/-- The second phase leaves the job groups and the volumes as they are. -/
theorem groups_customize {addons : List (Configured Addon)} {a b : Assembly}
    (h : a.customize addons = .ok b) : b.groups = a.groups :=
  foldlM_induct (motive := fun b : Assembly => b.groups = a.groups) h rfl
    fun _ _ _ _ hb hstep => (groups_customizeBy hstep).trans hb

theorem volumes_customize {addons : List (Configured Addon)} {a b : Assembly}
    (h : a.customize addons = .ok b) : b.volumes = a.volumes :=
  foldlM_induct (motive := fun b : Assembly => b.volumes = a.volumes) h rfl
    fun _ _ _ _ hb hstep => (volumes_customizeBy hstep).trans hb

end Assembly
end MeasuredJob
