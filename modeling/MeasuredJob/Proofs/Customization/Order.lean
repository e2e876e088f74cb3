import MeasuredJob.Proofs.Assembly.Contributions
import MeasuredJob.Proofs.Customization.ClosedForm
import MeasuredJob.Proofs.Customization.Offence
import MeasuredJob.Proofs.Plugin.Behaviour

/-!
# The order of customizations

Addons that only wrap never fail, since they leave every container where it is and call it what it
was called.  They take containers one by one, so the order in which they come matters only where two
of them change the same container.
-/

namespace MeasuredJob

/-- The addon leaves all containers alone. -/
def Addon.Idle (addon : Addon) : Prop :=
  ∀ groups container, addon.visit groups container = container

/-! ## What a visit changes -/

theorem Wrapper.Describes.exists_visit_eq {w : Wrapper} {addon : Configured Addon}
    (h : w.Describes addon) (groups : List JobGroup) (container : Container) :
    ∃ fragments words privileged,
      addon.behaviour.visit groups container =
        container.customized fragments words privileged := by
  let a : WrappingAddon := ⟨addon, w, h⟩
  have hvisit : a.visit groups container = addon.behaviour.visit groups container := rfl
  rw [← hvisit]
  by_cases hstandalone : container.standalone = true
  · rw [a.visit_of_standalone groups hstandalone]
    exact ⟨[], [], false, container.customized_nil.symm⟩
  · cases hgroup : Assembly.findGroup? groups container.jobGroup with
    | none =>
      rw [WrappingAddon.visit, customizeIn_of_findGroup? hgroup]
      exact ⟨[], [], false, container.customized_nil.symm⟩
    | some group =>
      rw [a.visit_of_findGroup? (Bool.eq_false_iff.mpr hstandalone) hgroup]
      exact ⟨_, _, _, rfl⟩

theorem exists_visitAll_eq {addons : List (Configured Addon)}
    (h : ∀ addon ∈ addons, ∃ w : Wrapper, w.Describes addon) (groups : List JobGroup)
    (container : Container) :
    ∃ fragments words privileged, visitAll groups addons container =
      container.customized fragments words privileged := by
  induction addons generalizing container with
  | nil => exact ⟨[], [], false, container.customized_nil.symm⟩
  | cons addon addons ih =>
    obtain ⟨w, hw⟩ := h addon List.mem_cons_self
    obtain ⟨fragments, words, privileged, hfirst⟩ := hw.exists_visit_eq groups container
    obtain ⟨fragments', words', privileged', hrest⟩ :=
      ih (fun addon haddon => h addon (List.mem_cons_of_mem _ haddon))
        (addon.behaviour.visit groups container)
    refine ⟨fragments ++ fragments', words ++ words', privileged || privileged', ?_⟩
    rw [visitAll, List.foldl_cons, ← visitAll, hrest, hfirst, Container.customized_customized]

theorem visitAll_of_standalone (groups : List JobGroup) (addons : List (Configured Addon))
    {container : Container} (h : container.standalone = true) :
    visitAll groups addons container = container := by
  induction addons with
  | nil => rfl
  | cons addon addons ih =>
    have hvisit : addon.behaviour.visit groups container = container := by
      rw [Addon.visit, customizeIn, if_pos h]
    rw [visitAll, List.foldl_cons, hvisit]
    exact ih

/-! ## Success -/

namespace Assembly

open Success

theorem customizeBy_eq_ok {w : Wrapper} {addon : Configured Addon} (h : w.Describes addon)
    (index : ℕ) {a : Assembly} (hnames : (a.groups.map JobGroup.name).Nodup) (hplaced : a.Placed) :
    customizeBy a (addon, index) = .ok { a with
      containers := a.containers.map (addon.behaviour.visit a.groups) } := by
  refine customizeBy_eq_ok_iff.mpr
    ⟨_, h.isLocal.customize_eq hnames a.containers, fun step hstep => ?_, rfl⟩
  change step ∈ a.containers.zip (a.containers.map _) at hstep
  rw [← List.map_prod_left_eq_zip, List.mem_map] at hstep
  obtain ⟨c, hc, rfl⟩ := hstep
  obtain ⟨fragments, words, privileged, hvisit⟩ := h.exists_visit_eq a.groups c
  rw [offence?_eq_none_iff, hvisit]
  exact ⟨.inl rfl, hplaced c hc⟩

/-- The second phase succeeds and takes every container through the addons. -/
theorem customize_eq_ok {addons : List (Configured Addon)}
    (h : ∀ addon ∈ addons, ∃ w : Wrapper, w.Describes addon) {a : Assembly}
    (hnames : (a.groups.map JobGroup.name).Nodup) (hplaced : a.Placed) :
    a.customize addons = .ok { a with
      containers := a.containers.map (visitAll a.groups addons) } := by
  suffices hfrom : ∀ (n : ℕ) (a : Assembly), (a.groups.map JobGroup.name).Nodup → a.Placed →
      (addons.zipIdx n).foldlM customizeBy a = .ok { a with
        containers := a.containers.map (visitAll a.groups addons) } from hfrom 0 a hnames hplaced
  clear hplaced hnames a
  induction addons with
  | nil =>
    intro n a _ _
    rw [List.zipIdx_nil, List.foldlM_nil, pure_eq_ok_iff]
    exact congrArg (fun cs => { a with containers := cs }) (List.map_id a.containers).symm
  | cons addon addons ih =>
    intro n a hnames hplaced
    obtain ⟨w, hw⟩ := h addon List.mem_cons_self
    have hrest := ih fun addon haddon => h addon (List.mem_cons_of_mem _ haddon)
    let visited : Assembly := { a with
      containers := a.containers.map (addon.behaviour.visit a.groups) }
    have hturn : customizeBy a (addon, n) = .ok visited := customizeBy_eq_ok hw n hnames hplaced
    rw [List.zipIdx_cons, List.foldlM_cons, bind_eq_ok_iff]
    refine ⟨visited, hturn, ?_⟩
    rw [hrest (n + 1) visited hnames (placed_customizeBy hturn), List.map_map]
    rfl

end Assembly

/-! ## Addons in another order -/

/-- Where of two different addons one is idle, the order does not matter. -/
theorem visitAll_perm {addons addons' : List (Configured Addon)} (hperm : addons.Perm addons')
    (hidle : ∀ addon ∈ addons, ∀ addon' ∈ addons, addon ≠ addon' →
      addon.behaviour.Idle ∨ addon'.behaviour.Idle)
    (groups : List JobGroup) (container : Container) :
    visitAll groups addons container = visitAll groups addons' container := by
  refine hperm.foldl_eq' (fun addon haddon addon' haddon' c => ?_) container
  by_cases heq : addon = addon'
  · rw [heq]
  · rcases hidle addon haddon addon' haddon' heq with h | h
    · rw [h, h]
    · rw [h, h]

/-! ## Marks -/

theorem Addon.Idle.visit_remark {addon : Addon} (h : addon.Idle)
    (f : Option Contributor → Option Contributor) (groups : List JobGroup) (container : Container) :
    addon.visit groups (container.remark f) = (addon.visit groups container).remark f := by
  rw [h, h]

/-- Words that do not depend on the container have no regard to its mark. -/
theorem Wrapper.Describes.visit_remark {w : Wrapper} {addon : Configured Addon}
    (h : w.Describes addon) (hfixed : ∀ c c', w.words c = w.words c')
    (f : Option Contributor → Option Contributor) (groups : List JobGroup) (container : Container) :
    addon.behaviour.visit groups (container.remark f) =
      (addon.behaviour.visit groups container).remark f := by
  let a : WrappingAddon := ⟨addon, w, h⟩
  show a.visit groups (container.remark f) = (a.visit groups container).remark f
  by_cases hstandalone : container.standalone = true
  · rw [a.visit_of_standalone groups hstandalone]
    exact a.visit_of_standalone groups hstandalone
  · have hregular : container.standalone = false := Bool.eq_false_iff.mpr hstandalone
    cases hgroup : Assembly.findGroup? groups container.jobGroup with
    | none =>
      rw [WrappingAddon.visit, WrappingAddon.visit, customizeIn_of_findGroup? hgroup]
      exact customizeIn_of_findGroup? hgroup
    | some group =>
      have hwords : a.words? group (container.remark f) = a.words? group container := by
        have hwraps : a.wraps group (container.remark f) = a.wraps group container := rfl
        rw [WrappingAddon.words?, WrappingAddon.words?, hwraps]
        split
        · exact hfixed _ _
        · rfl
      have hmoved : a.visit groups (container.remark f) = a.apply group (container.remark f) :=
        a.visit_of_findGroup? hregular hgroup
      rw [hmoved, a.visit_of_findGroup? hregular hgroup, WrappingAddon.apply, hwords]
      rfl

theorem visitAll_remark {addons : List (Configured Addon)}
    {f : Option Contributor → Option Contributor} {groups : List JobGroup}
    (h : ∀ addon ∈ addons, ∀ c, addon.behaviour.visit groups (c.remark f) =
      (addon.behaviour.visit groups c).remark f) (container : Container) :
    visitAll groups addons (container.remark f) =
      (visitAll groups addons container).remark f := by
  induction addons generalizing container with
  | nil => rfl
  | cons addon addons ih =>
    have hrest := ih fun addon haddon => h addon (List.mem_cons_of_mem _ haddon)
    rw [visitAll, List.foldl_cons, h addon List.mem_cons_self]
    exact hrest _

/-! ## The addons of the library -/

theorem Addon.idle_of_id {addon : Addon} (hsetup : ∀ group, addon.setup group = none)
    (hwrap : addon.wrap = id) : addon.Idle := by
  intro groups container
  rw [visit, customizeIn]
  split
  · rfl
  · split
    · rename_i group _
      simp [customizeTargeted, customizeContainer, hsetup, hwrap]
    · rfl

/-- Of the addons of the library only the profiler does anything to a container. -/
theorem Builtin.AddonOf.idle_or_profiler {bag : OptionBag} {addon : Addon}
    (h : AddonOf bag addon) :
    addon.Idle ∨ addon = Profiler.addon (Profiler.readOptions bag) := by
  cases h with
  | companion => exact .inl (Addon.idle_of_id (fun _ => rfl) rfl)
  | profiler => exact .inr rfl
  | mount kind => exact .inl (Addon.idle_of_id (fun _ => rfl) rfl)

theorem Builtin.AddonOf.visit_remark {bag : OptionBag} {addon : Addon} (h : AddonOf bag addon)
    (f : Option Contributor → Option Contributor) (groups : List JobGroup) (container : Container) :
    addon.visit groups (container.remark f) = (addon.visit groups container).remark f := by
  rcases h.idle_or_profiler with hidle | hprofiler
  · exact hidle.visit_remark f groups container
  · let profiler : Configured Addon := ⟨Profiler.identifier, bag, addon⟩
    have hdescribes : (Wrapper.profiler (Profiler.readOptions bag)).Describes profiler :=
      ⟨rfl, hprofiler⟩
    exact hdescribes.visit_remark (fun _ _ => rfl) f groups container

end MeasuredJob
