import MeasuredJob.Proofs.Assembly.Contributions
import MeasuredJob.Proofs.Composition.ScriptKeys
import MeasuredJob.Proofs.Plugin.Behaviour

/-!
# Labelled scripts

A script that is named after its container and its job group gets a key that no other script has.
Names of containers are free, so a dash may stand anywhere in them; what makes the key unambiguous
is that the job group has none.
-/

namespace MeasuredJob

open Success

/-! ## Texts of labels -/

theorem append_cons_inj_of_notMem_right {α : Type} {xs ys gs hs : List α} {a : α} (hg : a ∉ gs)
    (hh : a ∉ hs) (h : xs ++ a :: gs = ys ++ a :: hs) : xs = ys ∧ gs = hs := by
  rcases List.append_eq_append_iff.mp h with ⟨zs, rfl, hrest⟩ | ⟨zs, rfl, hrest⟩
  · cases zs with
    | nil => exact ⟨(List.append_nil xs).symm, (List.cons.inj hrest).2⟩
    | cons z zs =>
      have hmem : a ∈ gs := (List.cons.inj hrest).2 ▸ List.mem_append_right zs List.mem_cons_self
      exact absurd hmem hg
  · cases zs with
    | nil => exact ⟨List.append_nil ys, (List.cons.inj hrest).2.symm⟩
    | cons z zs =>
      have hmem : a ∈ hs := (List.cons.inj hrest).2 ▸ List.mem_append_right zs List.mem_cons_self
      exact absurd hmem hh

theorem label_inj {name name' group group' : String} (h : '-' ∉ group.toList)
    (h' : '-' ∉ group'.toList) (heq : name ++ "-" ++ group = name' ++ "-" ++ group') :
    name = name' ∧ group = group' := by
  have htexts := congrArg String.toList heq
  simp only [String.toList_append, List.append_assoc] at htexts
  obtain ⟨hname, hgroup⟩ := append_cons_inj_of_notMem_right h h' htexts
  exact ⟨String.toList_inj.mp hname, String.toList_inj.mp hgroup⟩

/-! ## Keys of labelled scripts -/

/-- The script has no name, or is named after its container and a job group without a dash. -/
def Container.Labelled (container : Container) : Prop :=
  container.script.name = none ∨
    '-' ∉ container.jobGroup.toList ∧
      container.script.name = some (container.name ++ "-" ++ container.jobGroup)

namespace Composition

/-- Containers that are told apart have scripts that are told apart. -/
theorem nodup_labels_of_labelled {containers : List Container}
    (hunique : (containers.map Container.key).Nodup) (h : ∀ c ∈ containers, c.Labelled) :
    (containers.filterMap Container.label?).Nodup := by
  rw [List.Nodup, List.pairwise_map] at hunique
  rw [List.Nodup, List.pairwise_filterMap]
  refine hunique.imp_of_mem ?_
  intro c c' hc hc' hdistinct label hlabel label' hlabel' heq
  obtain rfl := heq
  have hname := (label?_eq_some_iff.mp hlabel).2
  have hname' := (label?_eq_some_iff.mp hlabel').2
  rcases h c hc with hnone | ⟨hdash, hlabelled⟩
  · cases hnone.symm.trans hname
  rcases h c' hc' with hnone' | ⟨hdash', hlabelled'⟩
  · cases hnone'.symm.trans hname'
  have hlabels := (hlabelled.symm.trans hname).trans (hname'.symm.trans hlabelled')
  obtain ⟨hsame, hgroup⟩ := label_inj hdash hdash' (Option.some.inj hlabels)
  exact hdistinct (Prod.ext hgroup hsame)

end Composition

/-! ## Labels of the library -/

namespace Assembly

variable {ctx : Context}

/-- The job groups of the library are known by name. -/
theorem name_mem_of_assemble {resolution : Resolution}
    (hmetrics : ∀ metric ∈ resolution.metrics, Builtin.MetricOf metric.behaviour) {a : Assembly}
    (h : assemble ctx resolution = .ok a) : ∀ group ∈ a.groups,
      group.name ∈ [JobGroup.launcherName, JobGroup.workerName, JobGroup.defaultName] := by
  intro group hgroup
  obtain ⟨metric, hmetric, hname⟩ := (mem_names_assemble h).mp (List.mem_map_of_mem hgroup)
  rcases (hmetrics metric hmetric).names_metricGroups ctx with hnames | hnames
  · rw [hnames] at hname
    exact List.mem_append_left [JobGroup.defaultName] hname
  · rw [hnames] at hname
    exact List.mem_append_right [JobGroup.launcherName, JobGroup.workerName] hname

theorem dash_notMem_of_assemble {resolution : Resolution}
    (hmetrics : ∀ metric ∈ resolution.metrics, Builtin.MetricOf metric.behaviour) {a : Assembly}
    (h : assemble ctx resolution = .ok a) : ∀ group ∈ a.groups, '-' ∉ group.name.toList := by
  have hknown : ∀ name ∈ [JobGroup.launcherName, JobGroup.workerName, JobGroup.defaultName],
      '-' ∉ name.toList := by
    decide
  exact fun group hgroup => hknown _ (name_mem_of_assemble hmetrics h group hgroup)

/-- The first phase with plugins of the library labels every script. -/
theorem labelled_assemble {resolution : Resolution}
    (hmetrics : ∀ metric ∈ resolution.metrics, Builtin.MetricOf metric.behaviour)
    (haddons : ∀ addon ∈ resolution.addons, ∃ bag, Builtin.AddonOf bag addon.behaviour)
    {a : Assembly} (h : assemble ctx resolution = .ok a) : ∀ c ∈ a.containers, c.Labelled := by
  intro c hc
  cases origin_assemble h c hc with
  | @metric metric index hmetric happlication containers hcontainers c' hc' =>
    obtain ⟨containers', hcontainers', hunnamed, -⟩ :=
      (hmetrics metric (List.mem_of_getElem? hmetric)).containers_eq happlication
    obtain rfl : containers = containers' := Except.ok.inj (hcontainers.symm.trans hcontainers')
    have hscript : (adoptFromMetric metric.behaviour.kind index c').script = c'.script := by
      cases metric.behaviour.kind <;> rfl
    rw [Container.Labelled, hscript]
    exact .inl (hunnamed c' hc')
  | application happ => exact .inl rfl
  | @addon addon index haddon group hgroup containers hcontainers c' hc' =>
    obtain ⟨bag, hof⟩ := haddons addon (List.mem_of_getElem? haddon)
    obtain ⟨containers', hcontainers', hnamed⟩ := hof.containers_eq group ctx
    obtain rfl : containers = containers' := Except.ok.inj (hcontainers.symm.trans hcontainers')
    exact .inr ⟨dash_notMem_of_assemble hmetrics h group hgroup, hnamed c' hc'⟩

end Assembly
end MeasuredJob
