import Mathlib.Data.List.Induction
import MeasuredJob.Proofs.Assembly.Steps

/-!
# Contributors

Every container carries a mark that says who contributed it.  Plugins may hand in containers with
any mark.  The law here is that the first phase leaves no wrong one: a container is marked with an
addon exactly when it came with the contribution of that addon.
-/

namespace MeasuredJob

/-- The same container with another mark. -/
def Container.remark (f : Option Contributor → Option Contributor) (container : Container) :
    Container :=
  { container with contributor := f container.contributor }

/-- The metrics and the addons before the place `count`. -/
def Resolution.upTo (resolution : Resolution) (count : Nat) : Resolution :=
  { resolution with addons := resolution.addons.take count }

namespace Assembly

open Success

theorem contributor_adoptFromMetric (kind : MetricKind) (index : Nat) (container : Container) :
    (adoptFromMetric kind index container).contributor = some (.metric index) := by
  cases kind <;> rfl

/-- Who is said to have contributed the container at the place `i`. -/
def contributorAt (assembly : Assembly) (i : Nat) : Option Contributor :=
  assembly.containers[i]?.bind Container.contributor

/-- The container at the place `i` came with the contribution of the addon at `index`: it was not
there before that addon, and was there after it. -/
def ContributedBy (ctx : Context) (resolution : Resolution) (index i : Nat) : Prop :=
  ∃ before after, assemble ctx (resolution.upTo index) = .ok before ∧
    assemble ctx (resolution.upTo (index + 1)) = .ok after ∧
    before.containers.length ≤ i ∧ i < after.containers.length

/-! ## Origins -/

/-- Where a container of the first phase comes from, when `groups` are the job groups that addons
find. -/
inductive Origin (ctx : Context) (resolution : Resolution) (groups : List JobGroup) :
    Container → Prop where
  | metric {metric : Configured Metric} {index : ℕ}
      (hmetric : resolution.metrics[index]? = some metric)
      (happlication : metric.behaviour.requiresApplication = true →
        ctx.completeApplication?.isSome = true)
      {containers : List Container} (hcontainers : metric.behaviour.containers ctx = .ok containers)
      {c : Container} (hc : c ∈ containers) :
      Origin ctx resolution groups (adoptFromMetric metric.behaviour.kind index c)
  | application {app : Application} (happ : ctx.completeApplication? = some app) :
      Origin ctx resolution groups (applicationContainer app)
  | addon {addon : Configured Addon} {index : ℕ} (haddon : resolution.addons[index]? = some addon)
      {group : JobGroup} (hgroup : group ∈ groups) {containers : List Container}
      (hcontainers : addon.behaviour.containers group ctx = .ok containers)
      {c : Container} (hc : c ∈ containers) :
      Origin ctx resolution groups (adoptFromAddon index group c)

theorem origin_addMetric {ctx : Context} {resolution : Resolution} {groups : List JobGroup}
    {a b : Assembly} {metric : Configured Metric} {index : ℕ}
    (hmetric : resolution.metrics[index]? = some metric)
    (h : addMetric ctx a (metric, index) = .ok b)
    (ha : ∀ c ∈ a.containers, Origin ctx resolution groups c) :
    ∀ c ∈ b.containers, Origin ctx resolution groups c := by
  obtain ⟨happlication, containers, hcontainers, -, rfl⟩ := addMetric_eq_ok_iff.mp h
  intro c hc
  rcases List.mem_append.mp hc with hc | hc
  · exact ha c hc
  · obtain ⟨c', hc', rfl⟩ := List.mem_map.mp hc
    exact .metric hmetric happlication hcontainers hc'

theorem origin_applicationContainers {ctx : Context} {resolution : Resolution}
    {groups : List JobGroup} :
    ∀ c ∈ applicationContainers ctx resolution.metrics, Origin ctx resolution groups c := by
  intro c hc
  rw [applicationContainers] at hc
  split at hc
  · obtain ⟨app, happ, rfl⟩ := Option.map_eq_some_iff.mp (Option.mem_toList.mp hc)
    exact .application happ
  · exact absurd hc List.not_mem_nil

theorem origin_addAddon {ctx : Context} {resolution : Resolution} {a b : Assembly}
    {addon : Configured Addon} {index : ℕ} (haddon : resolution.addons[index]? = some addon)
    (h : addAddon ctx a (addon, index) = .ok b)
    (ha : ∀ c ∈ a.containers, Origin ctx resolution a.groups c) :
    ∀ c ∈ b.containers, Origin ctx resolution b.groups c := by
  obtain ⟨-, new, hnew, rfl⟩ := addAddon_eq_ok_iff_contribution.mp h
  intro c hc
  rcases List.mem_append.mp hc with hc | hc
  · exact ha c hc
  · obtain ⟨group, hgroup, -, containers, hcontainers, c', hc', rfl⟩ :=
      exists_of_mem_contribution hnew hc
    exact .addon haddon hgroup hcontainers hc'

/-- Every container of the first phase is a contribution of somebody in the declaration. -/
theorem origin_assemble {ctx : Context} {resolution : Resolution} {a : Assembly}
    (h : assemble ctx resolution = .ok a) :
    ∀ c ∈ a.containers, Origin ctx resolution a.groups c := by
  obtain ⟨ofMetrics, hmetrics, haddons⟩ := assemble_eq_ok_iff.mp h
  have horigin : ∀ c ∈ ofMetrics.containers, Origin ctx resolution ofMetrics.groups c := by
    refine foldlM_induct (motive := fun a : Assembly =>
      ∀ c ∈ a.containers, Origin ctx resolution ofMetrics.groups c) hmetrics
      (fun c hc => absurd hc List.not_mem_nil) fun entry hentry b b' hb hstep => ?_
    exact origin_addMetric (List.mem_zipIdx_iff_getElem?.mp hentry) hstep hb
  refine foldlM_induct (motive := fun a : Assembly =>
    ∀ c ∈ a.containers, Origin ctx resolution a.groups c) haddons (fun c hc => ?_)
    fun entry hentry b b' hb hstep => ?_
  · rcases List.mem_append.mp hc with hc | hc
    · exact horigin c hc
    · exact origin_applicationContainers c hc
  · exact origin_addAddon (List.mem_zipIdx_iff_getElem?.mp hentry) hstep hb

/-! ## Every contribution arrives -/

theorem containers_subset_addMetric {ctx : Context} {a b : Assembly}
    {entry : Configured Metric × Nat} (h : addMetric ctx a entry = .ok b) : a.containers ⊆ b.containers := by
  obtain ⟨-, containers, -, -, rfl⟩ := addMetric_eq_ok_iff.mp h
  exact List.subset_append_left _ _

theorem containers_subset_addAddon {ctx : Context} {a b : Assembly} {entry : Configured Addon × Nat}
    (h : addAddon ctx a entry = .ok b) : a.containers ⊆ b.containers := by
  obtain ⟨-, new, -, rfl⟩ := addAddon_eq_ok_iff_contribution.mp h
  exact List.subset_append_left _ _

theorem mem_assemble_of_metric {ctx : Context} {resolution : Resolution} {a : Assembly}
    (h : assemble ctx resolution = .ok a) {metric : Configured Metric} {index : ℕ}
    (hmetric : resolution.metrics[index]? = some metric) {containers : List Container}
    (hcontainers : metric.behaviour.containers ctx = .ok containers) {c : Container}
    (hc : c ∈ containers) : adoptFromMetric metric.behaviour.kind index c ∈ a.containers := by
  obtain ⟨ofMetrics, hmetrics, haddons⟩ := assemble_eq_ok_iff.mp h
  have hentry : (metric, index) ∈ resolution.metrics.zipIdx :=
    List.mem_zipIdx_iff_getElem?.mpr hmetric
  have hcontributed : adoptFromMetric metric.behaviour.kind index c ∈ ofMetrics.containers := by
    refine foldlM_induct_of_mem
      (motive := fun b : Assembly => adoptFromMetric metric.behaviour.kind index c ∈ b.containers)
      hmetrics hentry (fun b b' hstep => ?_)
      fun _ _ _ _ hmem hstep => containers_subset_addMetric hstep hmem
    obtain ⟨-, containers', hcontainers', -, rfl⟩ := addMetric_eq_ok_iff.mp hstep
    obtain rfl : containers = containers' := Except.ok.inj (hcontainers.symm.trans hcontainers')
    exact List.mem_append_right _ (List.mem_map_of_mem hc)
  exact foldlM_induct
    (motive := fun b : Assembly => adoptFromMetric metric.behaviour.kind index c ∈ b.containers)
    haddons (List.mem_append_left _ hcontributed)
    fun _ _ _ _ hmem hstep => containers_subset_addAddon hstep hmem

/-- Metrics and the application never pass for an addon. -/
theorem unmarked_of_no_addons {ctx : Context} {metrics : List (Configured Metric)} {a : Assembly}
    (h : assemble ctx { metrics, addons := [] } = .ok a) :
    ∀ c ∈ a.containers, ∀ index, c.contributor ≠ some (.addon index) := by
  intro c hc index
  cases origin_assemble h c hc with
  | metric hmetric happlication hcontainers hc =>
    rw [contributor_adoptFromMetric]
    simp
  | application happ => simp [applicationContainer]
  | addon haddon hgroup hcontainers hc => cases haddon

/-! ## One more addon -/

/-- Addons continue with what those before them have left. -/
theorem assemble_append {ctx : Context} {metrics : List (Configured Metric)}
    {addons more : List (Configured Addon)} {b : Assembly} :
    assemble ctx { metrics, addons := addons ++ more } = .ok b ↔
      ∃ a, assemble ctx { metrics, addons } = .ok a ∧
        (more.zipIdx addons.length).foldlM (addAddon ctx) a = .ok b := by
  have hbefore (a : Assembly) := @assemble_eq_ok_iff_start ctx metrics addons a
  rw [assemble_eq_ok_iff_start]
  simp only [hbefore, List.zipIdx_append, foldlM_append_eq_ok_iff, Nat.zero_add]
  constructor
  · rintro ⟨start, hstart, a, ha, hb⟩
    exact ⟨a, ⟨start, hstart, ha⟩, hb⟩
  · rintro ⟨a, ⟨start, hstart, ha⟩, hb⟩
    exact ⟨start, hstart, a, ha, hb⟩

theorem assemble_concat {ctx : Context} {metrics : List (Configured Metric)}
    {addons : List (Configured Addon)} {addon : Configured Addon} {b : Assembly} :
    assemble ctx { metrics, addons := addons ++ [addon] } = .ok b ↔
      ∃ a, assemble ctx { metrics, addons } = .ok a ∧
        addAddon ctx a (addon, addons.length) = .ok b := by
  simp only [assemble_append, List.zipIdx_cons, List.zipIdx_nil, foldlM_singleton_eq_ok_iff]

theorem marked_of_addAddon {ctx : Context} {a b : Assembly} {addon : Configured Addon}
    {index : Nat} (h : addAddon ctx a (addon, index) = .ok b) :
    ∃ new, b.containers = a.containers ++ new ∧
      ∀ c ∈ new, c.contributor = some (.addon index) := by
  obtain ⟨-, new, hnew, rfl⟩ := addAddon_eq_ok_iff_contribution.mp h
  refine ⟨new, rfl, fun c hc => ?_⟩
  obtain ⟨group, -, -, containers, -, c', -, rfl⟩ := exists_of_mem_contribution hnew hc
  rfl

/-- There is nobody to contribute behind the last addon. -/
theorem not_contributedBy_of_length_le {ctx : Context} {resolution : Resolution} {index i : Nat}
    (h : resolution.addons.length ≤ index) : ¬ContributedBy ctx resolution index i := by
  rintro ⟨before, after, hbefore, hafter, hle, hlt⟩
  rw [Resolution.upTo, List.take_of_length_le h] at hbefore
  rw [Resolution.upTo, List.take_of_length_le (Nat.le_succ_of_le h), hbefore] at hafter
  cases hafter
  exact absurd hlt (Nat.not_lt.mpr hle)

theorem contributedBy_concat {ctx : Context} {metrics : List (Configured Metric)}
    {addons : List (Configured Addon)} {addon : Configured Addon} {a b : Assembly}
    (ha : assemble ctx { metrics, addons } = .ok a)
    (hb : assemble ctx { metrics, addons := addons ++ [addon] } = .ok b) {index i : Nat} :
    ContributedBy ctx { metrics, addons := addons ++ [addon] } index i ↔
      ContributedBy ctx { metrics, addons } index i ∨
        index = addons.length ∧ a.containers.length ≤ i ∧ i < b.containers.length := by
  rcases Nat.lt_trichotomy index addons.length with hlt | rfl | hgt
  · simp only [ContributedBy, Resolution.upTo]
    rw [List.take_append_of_le_length (Nat.le_of_lt hlt), List.take_append_of_le_length hlt]
    simp [Nat.ne_of_lt hlt]
  · rw [or_iff_right (not_contributedBy_of_length_le (Nat.le_refl _)), ContributedBy,
      Resolution.upTo, Resolution.upTo, List.take_left, List.take_of_length_le (by simp), ha, hb]
    simp
  · have hlonger : (addons ++ [addon]).length ≤ index := by
      rw [List.length_append]
      exact hgt
    rw [iff_false_left (not_contributedBy_of_length_le hlonger)]
    rintro (hbefore | ⟨rfl, -⟩)
    · exact not_contributedBy_of_length_le (Nat.le_of_lt hgt) hbefore
    · exact absurd hgt (Nat.lt_irrefl _)

/-- After the first phase a container is marked with an addon exactly when that addon contributed
it. -/
theorem contributorAt_eq_addon_iff {ctx : Context} {resolution : Resolution} {a : Assembly}
    (h : assemble ctx resolution = .ok a) {index i : Nat} :
    a.contributorAt i = some (.addon index) ↔ ContributedBy ctx resolution index i := by
  obtain ⟨metrics, addons⟩ := resolution
  induction addons using List.reverseRecOn generalizing a with
  | nil =>
    have hunmarked := unmarked_of_no_addons h
    constructor
    · intro hmark
      obtain ⟨c, hc, hmark⟩ := Option.bind_eq_some_iff.mp hmark
      exact absurd hmark (hunmarked c (List.mem_of_getElem? hc) index)
    · exact fun hcontributed =>
        absurd hcontributed (not_contributedBy_of_length_le (Nat.zero_le index))
  | append_singleton addons addon ih =>
    obtain ⟨before, hbefore, hstep⟩ := assemble_concat.mp h
    obtain ⟨new, hnew, hmarked⟩ := marked_of_addAddon hstep
    rw [contributedBy_concat hbefore h, ← ih hbefore, contributorAt, contributorAt, hnew]
    by_cases hi : i < before.containers.length
    · rw [List.getElem?_append_left hi]
      simp [Nat.not_le.mpr hi]
    · have hle : before.containers.length ≤ i := Nat.not_lt.mp hi
      rw [List.getElem?_append_right hle, List.getElem?_eq_none hle]
      simp only [Option.bind_none, reduceCtorEq, false_or, hle, true_and, List.length_append]
      cases hplace : new[i - before.containers.length]? with
      | none =>
        have hlength : new.length ≤ i - before.containers.length := List.getElem?_eq_none_iff.mp hplace
        simp
        omega
      | some c =>
        have hlength : i - before.containers.length < new.length :=
          (List.getElem?_eq_some_iff.mp hplace).1
        have hmark := hmarked c (List.mem_of_getElem? hplace)
        simp [hmark]
        omega

end Assembly
end MeasuredJob
