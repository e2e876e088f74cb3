import MeasuredJob.Proofs.Arrangement
import MeasuredJob.Proofs.Assembly.Contributors
import MeasuredJob.Proofs.Assembly.Groups

/-!
# Monitors in an assembly

Monitors share processes with the application in one job group, to which others may contribute as
well.  Merging keeps that: a job group shares processes as soon as one of its contributions asks for
it, in whatever order they come.  The containers of a metric, and that of the application, are found
again by their marks, since every contribution is marked and nobody else's has the same mark.
-/

namespace MeasuredJob
namespace Assembly

open Success

/-! ## Shared processes -/

/-- A job group of that name shares processes. -/
def SharesIn (groups : List JobGroup) (name : String) : Prop :=
  ∃ group ∈ groups, group.name = name ∧ group.sharesProcesses = true

theorem sharesIn_append {groups more : List JobGroup} {name : String} :
    SharesIn (groups ++ more) name ↔ SharesIn groups name ∨ SharesIn more name := by
  simp only [SharesIn, List.mem_append, or_and_right, exists_or]

theorem sharesIn_flatMap {α : Type} {as : List α} {f : α → List JobGroup} {name : String} :
    SharesIn (as.flatMap f) name ↔ ∃ a ∈ as, SharesIn (f a) name := by
  constructor
  · intro h
    obtain ⟨group, hgroup, hshares⟩ := h
    obtain ⟨a, ha, hgroup⟩ := List.mem_flatMap.mp hgroup
    exact ⟨a, ha, group, hgroup, hshares⟩
  · intro h
    obtain ⟨a, ha, group, hgroup, hshares⟩ := h
    exact ⟨group, List.mem_flatMap.mpr ⟨a, ha, hgroup⟩, hshares⟩

/-- Merging a group keeps the flag of the group that is there and the flag of the new one. -/
theorem sharesIn_mergeGroup {groups : List JobGroup} {group : JobGroup} {name : String} :
    SharesIn (mergeGroup groups group) name ↔ SharesIn (groups ++ [group]) name := by
  rw [mergeGroup, sharesIn_append]
  by_cases hthere : (groups.any fun g => g.name == group.name) = true
  · rw [if_pos hthere]
    constructor
    · intro h
      obtain ⟨merged, hmerged, hname, hshares⟩ := h
      obtain ⟨g, hg, rfl⟩ := List.mem_map.mp hmerged
      by_cases heq : g.name = group.name
      · rw [if_pos heq] at hname hshares
        cases hown : g.sharesProcesses with
        | true => exact .inl ⟨g, hg, hname, hown⟩
        | false =>
          have hnew : group.sharesProcesses = true := by simpa [hown] using hshares
          exact .inr ⟨group, List.mem_singleton_self _, heq ▸ hname, hnew⟩
      · rw [if_neg heq] at hname hshares
        exact .inl ⟨g, hg, hname, hshares⟩
    · intro h
      obtain ⟨g, hg, hname, hshares⟩ | ⟨g, hg, hname, hshares⟩ := h
      · refine ⟨_, List.mem_map_of_mem hg, ?_⟩
        by_cases heq : g.name = group.name
        · rw [if_pos heq, hshares]
          exact ⟨hname, rfl⟩
        · rw [if_neg heq]
          exact ⟨hname, hshares⟩
      · obtain rfl : g = group := List.mem_singleton.mp hg
        obtain ⟨g', hg', heq⟩ := List.any_eq_true.mp hthere
        have heq : g'.name = g.name := beq_iff_eq.mp heq
        refine ⟨_, List.mem_map_of_mem hg', ?_⟩
        rw [if_pos heq, hshares, Bool.or_true]
        exact ⟨heq.trans hname, rfl⟩
  · rw [if_neg hthere, sharesIn_append]

theorem sharesIn_mergeGroups {groups more : List JobGroup} {name : String} :
    SharesIn (mergeGroups groups more) name ↔ SharesIn (groups ++ more) name := by
  induction more generalizing groups with
  | nil => rw [List.append_nil, mergeGroups, List.foldl_nil]
  | cons group more ih =>
    rw [mergeGroups, List.foldl_cons, ← mergeGroups, ih, sharesIn_append, sharesIn_mergeGroup,
      ← sharesIn_append, List.append_assoc, List.singleton_append]

/-- Where names are distinct, a group shares processes when its name does. -/
theorem sharesProcesses_iff_of_mem {groups : List JobGroup}
    (hnames : (groups.map JobGroup.name).Nodup) {group : JobGroup} (hgroup : group ∈ groups) :
    group.sharesProcesses = true ↔ SharesIn groups group.name := by
  constructor
  · intro hshares
    exact ⟨group, hgroup, rfl, hshares⟩
  · intro h
    obtain ⟨g, hg, hname, hshares⟩ := h
    rwa [← List.inj_on_of_nodup_map hnames hg hgroup hname]

/-- The first phase shares the processes of a job group exactly if a metric asks for it. -/
theorem sharesIn_assemble {ctx : Context} {resolution : Resolution} {a : Assembly}
    (h : assemble ctx resolution = .ok a) {name : String} :
    SharesIn a.groups name ↔
      ∃ metric ∈ resolution.metrics, SharesIn (metricGroups ctx metric.behaviour) name := by
  obtain ⟨ofMetrics, hmetrics, haddons⟩ := assemble_eq_ok_iff.mp h
  have hgroups : a.groups = mergeGroups []
      (resolution.metrics.flatMap fun metric => metricGroups ctx metric.behaviour) := by
    rw [groups_addAddons haddons,
      ← flatMap_zipIdx resolution.metrics (fun metric => metricGroups ctx metric.behaviour) 0]
    exact groups_addMetrics hmetrics
  rw [hgroups, sharesIn_mergeGroups, List.nil_append, sharesIn_flatMap]

/-! ## Marks -/

/-- The containers that bear a mark, in order. -/
def markedWith (mark : Contributor) (containers : List Container) : List Container :=
  containers.filter fun c => c.contributor == some mark

section

variable {mark : Contributor}

theorem markedWith_append (containers more : List Container) :
    markedWith mark (containers ++ more) = markedWith mark containers ++ markedWith mark more :=
  List.filter_append _ _

theorem markedWith_eq_self {containers : List Container}
    (h : ∀ c ∈ containers, c.contributor = some mark) : markedWith mark containers = containers :=
  List.filter_eq_self.mpr fun c hc => beq_iff_eq.mpr (h c hc)

theorem markedWith_eq_nil {containers : List Container} {other : Contributor}
    (h : ∀ c ∈ containers, c.contributor = some other) (hne : other ≠ mark) :
    markedWith mark containers = [] := by
  refine List.filter_eq_nil_iff.mpr fun c hc hmark => hne ?_
  exact Option.some.inj ((h c hc).symm.trans (beq_iff_eq.mp hmark))

variable {ctx : Context} {a b : Assembly}

theorem exists_markedWith_addMetric {metric : Configured Metric} {index : ℕ}
    (h : addMetric ctx a (metric, index) = .ok b) :
    ∃ containers, metric.behaviour.containers ctx = .ok containers ∧
      ∀ mark, markedWith mark b.containers = markedWith mark a.containers ++
        if mark = .metric index then
          containers.map (adoptFromMetric metric.behaviour.kind index)
        else [] := by
  obtain ⟨-, containers, hcontainers, -, rfl⟩ := addMetric_eq_ok_iff.mp h
  have hmarked : ∀ c ∈ containers.map (adoptFromMetric metric.behaviour.kind index),
      c.contributor = some (.metric index) := by
    intro c hc
    obtain ⟨c', -, rfl⟩ := List.mem_map.mp hc
    exact contributor_adoptFromMetric _ _ _
  refine ⟨containers, hcontainers, fun mark => ?_⟩
  rw [markedWith_append]
  by_cases heq : mark = .metric index
  · subst heq
    rw [if_pos rfl, markedWith_eq_self hmarked]
  · rw [if_neg heq, markedWith_eq_nil hmarked (Ne.symm heq)]

theorem markedWith_addMetrics {entries : List (Configured Metric × ℕ)}
    (h : entries.foldlM (addMetric ctx) a = .ok b) (hother : ∀ e ∈ entries, mark ≠ .metric e.2) :
    markedWith mark b.containers = markedWith mark a.containers := by
  refine foldlM_induct
    (motive := fun b : Assembly => markedWith mark b.containers = markedWith mark a.containers)
    h rfl fun entry hentry b b' hb hstep => ?_
  obtain ⟨containers, -, hmarked⟩ := exists_markedWith_addMetric hstep
  rw [hmarked, if_neg (hother entry hentry), List.append_nil, hb]

theorem markedWith_addAddons {entries : List (Configured Addon × ℕ)}
    (h : entries.foldlM (addAddon ctx) a = .ok b) (hother : ∀ index, mark ≠ .addon index) :
    markedWith mark b.containers = markedWith mark a.containers := by
  refine foldlM_induct
    (motive := fun b : Assembly => markedWith mark b.containers = markedWith mark a.containers)
    h rfl fun entry _ b b' hb hstep => ?_
  obtain ⟨new, hcontainers, hmarked⟩ := marked_of_addAddon hstep
  rw [hcontainers, markedWith_append, markedWith_eq_nil hmarked (hother entry.2).symm,
    List.append_nil, hb]

end

section

variable {ctx : Context} {resolution : Resolution} {a : Assembly}

theorem contributor_of_mem_applicationContainers {metrics : List (Configured Metric)} :
    ∀ c ∈ applicationContainers ctx metrics, c.contributor = some .application := by
  intro c hc
  rw [applicationContainers] at hc
  split at hc
  · obtain ⟨app, -, rfl⟩ := Option.map_eq_some_iff.mp (Option.mem_toList.mp hc)
    rfl
  · exact absurd hc List.not_mem_nil

theorem markedWith_application_assemble (h : assemble ctx resolution = .ok a) :
    markedWith .application a.containers = applicationContainers ctx resolution.metrics := by
  obtain ⟨ofMetrics, hmetrics, haddons⟩ := assemble_eq_ok_iff.mp h
  have hnone : markedWith .application ofMetrics.containers = [] :=
    markedWith_addMetrics hmetrics fun _ _ => Contributor.noConfusion
  rw [markedWith_addAddons haddons fun _ => Contributor.noConfusion, markedWith_append, hnone,
    markedWith_eq_self contributor_of_mem_applicationContainers, List.nil_append]

/-- The mark of a metric is on what the metric contributed and on nothing else. -/
theorem exists_markedWith_metric_assemble (h : assemble ctx resolution = .ok a)
    {metric : Configured Metric} {index : ℕ} (hmetric : resolution.metrics[index]? = some metric) :
    ∃ containers, metric.behaviour.containers ctx = .ok containers ∧
      markedWith (.metric index) a.containers =
        containers.map (adoptFromMetric metric.behaviour.kind index) := by
  obtain ⟨ofMetrics, hmetrics, haddons⟩ := assemble_eq_ok_iff.mp h
  have hentry : (metric, index) ∈ resolution.metrics.zipIdx :=
    List.mem_zipIdx_iff_getElem?.mpr hmetric
  -- The loop over metrics is cut at this one; the others have other places.
  obtain ⟨before, after, hsplit⟩ := List.append_of_mem hentry
  have hplaces := List.nodup_zipIdx_map_snd resolution.metrics
  rw [hsplit, List.map_append, List.map_cons, List.nodup_middle, List.nodup_cons,
    List.mem_append, not_or] at hplaces
  obtain ⟨⟨hbefore, hafter⟩, -⟩ := hplaces
  rw [hsplit, foldlM_append_eq_ok_iff] at hmetrics
  obtain ⟨a₁, hfirst, hrest⟩ := hmetrics
  rw [List.foldlM_cons, bind_eq_ok_iff] at hrest
  obtain ⟨a₂, hstep, hlast⟩ := hrest
  have hother : ∀ entries : List (Configured Metric × ℕ), index ∉ entries.map Prod.snd →
      ∀ e ∈ entries, Contributor.metric index ≠ .metric e.2 := by
    intro entries hnone e he heq
    have hplace : e.2 = index := (Contributor.metric.inj heq).symm
    exact hnone (List.mem_map.mpr ⟨e, he, hplace⟩)
  have hfree₁ : markedWith (.metric index) a₁.containers = [] :=
    markedWith_addMetrics hfirst (hother before hbefore)
  have hfree₂ : markedWith (.metric index) ofMetrics.containers =
      markedWith (.metric index) a₂.containers :=
    markedWith_addMetrics hlast (hother after hafter)
  have hfree₃ : markedWith (.metric index) (applicationContainers ctx resolution.metrics) = [] :=
    markedWith_eq_nil contributor_of_mem_applicationContainers Contributor.noConfusion
  obtain ⟨containers, hcontainers, hmarked⟩ := exists_markedWith_addMetric hstep
  refine ⟨containers, hcontainers, ?_⟩
  rw [markedWith_addAddons haddons fun _ => Contributor.noConfusion, markedWith_append, hfree₂,
    hfree₃, hmarked, hfree₁, if_pos rfl, List.nil_append, List.append_nil]

end

end Assembly
end MeasuredJob
