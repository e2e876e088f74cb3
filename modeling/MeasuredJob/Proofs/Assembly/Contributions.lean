import MeasuredJob.Proofs.Arrangement
import MeasuredJob.Proofs.Assembly.Contributors

/-!
# Contributions of addons

What an addon contributes depends on the job groups of the metrics and on nothing that another addon
contributes.  So the first phase adds one contribution for each addon to what metrics and the
application contribute, and when addons are declared in another order their contributions are added
in that order.  Only the marks tell the difference, since they name addons by their places.
-/

namespace MeasuredJob

open Success

/-! ## Marks -/

/-- The same contributor after its addon has moved to another place. -/
def Contributor.relabel (σ : Equiv.Perm ℕ) : Contributor → Contributor
  | .addon index => .addon (σ index)
  | contributor => contributor

def Container.relabel (σ : Equiv.Perm ℕ) (container : Container) : Container :=
  { container with contributor := container.contributor.map (Contributor.relabel σ) }

/-- The mark of a container that no addon contributed names no place of an addon. -/
theorem Container.relabel_of_unmarked {σ : Equiv.Perm ℕ} {container : Container}
    (h : ∀ index, container.contributor ≠ some (.addon index)) :
    container.relabel σ = container := by
  have hmark : container.contributor.map (Contributor.relabel σ) = container.contributor := by
    cases hcontributor : container.contributor with
    | none => rfl
    | some contributor =>
      cases contributor with
      | addon index => exact absurd hcontributor (h index)
      | application | metric => rfl
  rw [relabel, hmark]

namespace Assembly

/-! ## One contribution -/

variable {ctx : Context} {groups : List JobGroup} {index index' : ℕ}
  {f : Option Contributor → Option Contributor}

theorem addonContainers_remark (hf : f (some (.addon index)) = some (.addon index')) {addon : Addon}
    {group : JobGroup} {cs : List Container}
    (h : addonContainers ctx addon index group = .ok cs) :
    addonContainers ctx addon index' group = .ok (cs.map (Container.remark f)) := by
  simp only [addonContainers, bind_eq_ok_iff, pure_eq_ok_iff] at h ⊢
  obtain ⟨containers, hcontainers, rfl⟩ := h
  refine ⟨containers, hcontainers, ?_⟩
  rw [List.map_map]
  refine List.map_congr_left fun c _ => ?_
  rw [Function.comp_apply, adoptFromAddon, adoptFromAddon, Container.remark, hf]

/-- An addon at another place contributes the same containers with another mark. -/
theorem contribution_remark (hf : f (some (.addon index)) = some (.addon index'))
    {addon : Configured Addon} {new : List Container}
    (h : contribution ctx groups (addon, index) = .ok new) :
    contribution ctx groups (addon, index') = .ok (new.map (Container.remark f)) := by
  simp only [contribution, bind_eq_ok_iff, mapM_eq_ok_iff, pure_eq_ok_iff] at h ⊢
  obtain ⟨contributed, hcontributed, rfl⟩ := h
  refine ⟨contributed.map (List.map (Container.remark f)), ?_, List.map_flatten.symm⟩
  rw [List.forall₂_map_right_iff]
  exact hcontributed.imp fun _ _ hadded => addonContainers_remark hf hadded

/-- It contributes there exactly when it does here. -/
theorem contribution_eq_ok_iff_remark (hf : f (some (.addon index)) = some (.addon index'))
    {addon : Configured Addon} {new' : List Container} :
    contribution ctx groups (addon, index') = .ok new' ↔
      ∃ new, contribution ctx groups (addon, index) = .ok new ∧
        new' = new.map (Container.remark f) := by
  constructor
  · intro h
    have hback := contribution_remark (f := fun _ => some (.addon index)) rfl h
    exact ⟨_, hback, Except.ok.inj (h.symm.trans (contribution_remark hf hback))⟩
  · rintro ⟨new, hnew, rfl⟩
    exact contribution_remark hf hnew

/-! ## All contributions -/

/-- The addons succeed when each finds its target and contributes, and then their contributions
stand one after another. -/
theorem foldlM_addAddon_eq_ok_iff {entries : List (Configured Addon × Nat)} {a b : Assembly} :
    entries.foldlM (addAddon ctx) a = .ok b ↔
      (∀ entry ∈ entries, HasTarget a.groups entry.1.behaviour) ∧
      ∃ news, List.Forall₂ (fun entry new => contribution ctx a.groups entry = .ok new)
          entries news ∧
        b = { a with
          containers := a.containers ++ news.flatten
          volumes := a.volumes ++ entries.flatMap fun entry => entry.1.behaviour.volumes } := by
  induction entries generalizing a with
  | nil =>
    rw [List.foldlM_nil, pure_eq_ok_iff]
    simp [eq_comm]
  | cons entry entries ih =>
    simp only [List.foldlM_cons, bind_eq_ok_iff, addAddon_eq_ok_iff_contribution, ih,
      List.forall_mem_cons]
    constructor
    · rintro ⟨_, ⟨htarget, new, hnew, rfl⟩, hrest, news, hnews, rfl⟩
      refine ⟨⟨htarget, hrest⟩, new :: news, .cons hnew hnews, ?_⟩
      simp
    · rintro ⟨⟨htarget, hrest⟩, _, hall, rfl⟩
      cases hall with
      | cons hnew hnews =>
        refine ⟨_, ⟨htarget, _, hnew, rfl⟩, hrest, _, hnews, ?_⟩
        simp

theorem foldlM_addAddon_zipIdx_eq_ok_iff {addons : List (Configured Addon)} {n : ℕ}
    {a b : Assembly} :
    (addons.zipIdx n).foldlM (addAddon ctx) a = .ok b ↔
      (∀ addon ∈ addons, HasTarget a.groups addon.behaviour) ∧
      ∃ news, List.Forall₂ (fun entry new => contribution ctx a.groups entry = .ok new)
          (addons.zipIdx n) news ∧
        b = { a with
          containers := a.containers ++ news.flatten
          volumes := a.volumes ++ addons.flatMap fun addon => addon.behaviour.volumes } := by
  have htargets := @forall_mem_zipIdx_iff _
    (fun addon : Configured Addon => HasTarget a.groups addon.behaviour) addons n
  rw [foldlM_addAddon_eq_ok_iff, flatMap_zipIdx addons (fun addon => addon.behaviour.volumes) n]
  exact and_congr_left' htargets

/-- What an addon has for a job group that it targets arrives in that group. -/
theorem mem_assemble_of_addon {ctx : Context} {resolution : Resolution} {a : Assembly}
    (h : assemble ctx resolution = .ok a) {addon : Configured Addon} {index : ℕ}
    (haddon : resolution.addons[index]? = some addon) {f : JobGroup → List Container}
    (hcontainers : ∀ group, addon.behaviour.containers group ctx = .ok (f group))
    {group : JobGroup} (hgroup : group ∈ a.groups)
    (htarget : addon.behaviour.scope.targetsGroup group.name = true) {c : Container}
    (hc : c ∈ f group) : adoptFromAddon index group c ∈ a.containers := by
  obtain ⟨ofMetrics, -, haddons⟩ := assemble_eq_ok_iff.mp h
  obtain ⟨-, news, hnews, rfl⟩ := foldlM_addAddon_eq_ok_iff.mp haddons
  have hentry : (addon, index) ∈ resolution.addons.zipIdx :=
    List.mem_zipIdx_iff_getElem?.mpr haddon
  obtain ⟨new, hnew, hcontribution⟩ := exists_of_mem_left hnews hentry
  rw [contribution_eq_ok hcontainers] at hcontribution
  have hcontributed : adoptFromAddon index group c ∈ new := by
    obtain rfl := Except.ok.inj hcontribution
    have htargeted : group ∈
        ofMetrics.groups.filter fun g => addon.behaviour.scope.targetsGroup g.name :=
      List.mem_filter.mpr ⟨hgroup, htarget⟩
    exact List.mem_flatMap.mpr ⟨group, htargeted, List.mem_map_of_mem hc⟩
  exact List.mem_append_right _ (List.mem_flatten.mpr ⟨new, hnew, hcontributed⟩)

/-- An addon that names a job group names one that is there. -/
theorem hasTarget_of_assemble {ctx : Context} {resolution : Resolution} {a : Assembly}
    (h : assemble ctx resolution = .ok a) {addon : Configured Addon}
    (haddon : addon ∈ resolution.addons) : HasTarget a.groups addon.behaviour := by
  obtain ⟨ofMetrics, -, haddons⟩ := assemble_eq_ok_iff.mp h
  obtain ⟨htargets, news, -, rfl⟩ := foldlM_addAddon_zipIdx_eq_ok_iff.mp haddons
  exact htargets addon haddon

/-- Where there are job groups, every addon applies to one. -/
theorem HasTarget.exists_targeted {groups : List JobGroup} {addon : Addon}
    (h : HasTarget groups addon) (hgroups : groups ≠ []) :
    ∃ group ∈ groups, addon.scope.targetsGroup group.name = true := by
  rcases h with hall | hone
  · obtain ⟨group, hgroup⟩ := List.exists_mem_of_ne_nil groups hgroups
    exact ⟨group, hgroup, by simp [Scope.targetsGroup, hall]⟩
  · obtain ⟨group, hgroup, hname⟩ := List.any_eq_true.mp hone
    refine ⟨group, hgroup, ?_⟩
    rw [Scope.targetsGroup, beq_iff_eq.mp hname, beq_self_eq_true, Bool.or_true]

/-! ## Addons in another order -/

/-- Two assemblies of the same metrics and of the same addons in different orders: what addons
contributed comes in the order of the addons.  Its scripts have names, so that their order does not
matter for the numbers of those that have none. -/
structure Rearranges (σ : Equiv.Perm ℕ) (a b : Assembly) : Prop where
  groups : b.groups = a.groups
  volumes : b.volumes.Perm a.volumes
  containers : ∃ own support support', a.containers = own ++ support ∧
    b.containers = own ++ support' ∧ support'.Perm (support.map (Container.relabel σ)) ∧
    (∀ c ∈ own, c.relabel σ = c) ∧ ∀ c ∈ support, c.script.name.isSome = true

namespace Rearranges

variable {σ : Equiv.Perm ℕ} {a b : Assembly}

theorem perm_containers (h : Rearranges σ a b) :
    b.containers.Perm (a.containers.map (Container.relabel σ)) := by
  obtain ⟨own, support, support', ha, hb, hperm, hown, -⟩ := h.containers
  have hsame : own.map (Container.relabel σ) = own :=
    (List.map_congr_left hown).trans (List.map_id own)
  rw [ha, hb, List.map_append, hsame]
  exact hperm.append_left own

/-- Names are told apart in both orders or in none. -/
theorem checkUnique (h : Rearranges σ a b) (ha : a.checkUnique = .ok ()) :
    b.checkUnique = .ok () := by
  rw [checkUnique_eq_ok_iff] at ha ⊢
  have hkeys := h.perm_containers.map Container.key
  rw [List.map_map] at hkeys
  exact ⟨hkeys.nodup_iff.mpr ha.1, (h.volumes.map Volume.name).nodup_iff.mpr ha.2⟩

/-- Whatever happens to containers one by one, and has no regard to marks, keeps the relation. -/
theorem map (h : Rearranges σ a b) {f : Container → Container}
    (hrelabel : ∀ c, f (c.relabel σ) = (f c).relabel σ)
    (hname : ∀ c, (f c).script.name = c.script.name) :
    Rearranges σ { a with containers := a.containers.map f }
      { b with containers := b.containers.map f } := by
  obtain ⟨own, support, support', ha, hb, hperm, hown, hnamed⟩ := h.containers
  refine ⟨h.groups, h.volumes, own.map f, support.map f, support'.map f, ?_, ?_, ?_, ?_, ?_⟩
  · rw [ha, List.map_append]
  · rw [hb, List.map_append]
  · have hexchange : f ∘ Container.relabel σ = Container.relabel σ ∘ f := funext hrelabel
    have hmoved := hperm.map f
    rwa [List.map_map, hexchange, ← List.map_map] at hmoved
  · intro c' hc'
    obtain ⟨c, hc, rfl⟩ := List.mem_map.mp hc'
    rw [← hrelabel, hown c hc]
  · intro c' hc'
    obtain ⟨c, hc, rfl⟩ := List.mem_map.mp hc'
    rw [hname]
    exact hnamed c hc

end Rearranges

section

variable {σ : Equiv.Perm ℕ} {ctx : Context} {metrics : List (Configured Metric)}
  {addons addons' : List (Configured Addon)}

theorem exists_volumes_eq {a : Assembly} (h : assemble ctx { metrics, addons } = .ok a) :
    ∃ own, a.volumes = own ++ addons.flatMap fun addon => addon.behaviour.volumes := by
  obtain ⟨start, -, haddons⟩ := assemble_eq_ok_iff_start.mp h
  obtain ⟨-, news, -, rfl⟩ := foldlM_addAddon_zipIdx_eq_ok_iff.mp haddons
  exact ⟨start.volumes, rfl⟩

/-- Two different addons do not contribute volumes of one name. -/
theorem volume_ne_of_checkUnique {a : Assembly} (h : assemble ctx { metrics, addons } = .ok a)
    (hunique : a.checkUnique = .ok ()) {addon addon' : Configured Addon} (haddon : addon ∈ addons)
    (haddon' : addon' ∈ addons) (hne : addon ≠ addon') {volume volume' : Volume}
    (hvolume : volume ∈ addon.behaviour.volumes) (hvolume' : volume' ∈ addon'.behaviour.volumes) :
    volume.name ≠ volume'.name := by
  obtain ⟨own, hvolumes⟩ := exists_volumes_eq h
  have hnodup := (checkUnique_eq_ok_iff.mp hunique).2
  rw [hvolumes, List.map_append, List.nodup_append, List.map_flatMap] at hnodup
  have : Std.Symm (Function.onFun List.Disjoint fun addon : Configured Addon =>
      addon.behaviour.volumes.map Volume.name) := ⟨fun _ _ h _ hleft hright => h hright hleft⟩
  have hdisjoint := (List.nodup_flatMap.mp hnodup.2.1).2.forall haddon haddon' hne
  intro heq
  exact hdisjoint (List.mem_map_of_mem hvolume) (heq ▸ List.mem_map_of_mem hvolume')

/-- The contributions of the addons in the other order, with the marks of their new places. -/
theorem exists_contributions (h : Rearranged σ addons addons') {groups : List JobGroup}
    {news : List (List Container)}
    (hnews : List.Forall₂ (fun entry new => contribution ctx groups entry = .ok new)
      addons.zipIdx news) :
    ∃ news', List.Forall₂ (fun entry new => contribution ctx groups entry = .ok new)
        addons'.zipIdx news' ∧
      news'.flatten.Perm (news.flatten.map (Container.relabel σ)) := by
  have hmoved : List.Forall₂ (fun entry new => contribution ctx groups entry = .ok new)
      (addons.zipIdx.map fun e => (e.1, σ e.2)) (news.map (List.map (Container.relabel σ))) := by
    rw [List.forall₂_map_left_iff, List.forall₂_map_right_iff]
    exact hnews.imp fun _ _ hnew =>
      contribution_remark (f := Option.map (Contributor.relabel σ)) rfl hnew
  obtain ⟨news', hnews', hperm⟩ := List.perm_comp_forall₂ h.perm_zipIdx hmoved
  refine ⟨news', hnews', ?_⟩
  rw [List.map_flatten]
  exact hperm.flatten

/-- The first phase succeeds in the other order as well. -/
theorem exists_rearranges (h : Rearranged σ addons addons')
    (hnamed : ∀ addon ∈ addons, ∀ group containers,
      addon.behaviour.containers group ctx = .ok containers →
        ∀ c ∈ containers, c.script.name.isSome = true)
    {a : Assembly} (ha : assemble ctx { metrics, addons } = .ok a) :
    ∃ b, assemble ctx { metrics, addons := addons' } = .ok b ∧ Rearranges σ a b := by
  obtain ⟨start, hstart, haddons⟩ := assemble_eq_ok_iff_start.mp ha
  obtain ⟨htargets, news, hnews, rfl⟩ := foldlM_addAddon_eq_ok_iff.mp haddons
  obtain ⟨news', hnews', hperm⟩ := exists_contributions h hnews
  have hplaces := h.perm_zipIdx
  have htargets' : ∀ entry ∈ addons'.zipIdx, HasTarget start.groups entry.1.behaviour := by
    intro entry' hentry'
    obtain ⟨entry, hentry, rfl⟩ := List.mem_map.mp (hplaces.mem_iff.mp hentry')
    exact htargets entry hentry
  refine ⟨_, assemble_eq_ok_iff_start.mpr ⟨start, hstart,
    foldlM_addAddon_eq_ok_iff.mpr ⟨htargets', news', hnews', rfl⟩⟩, ?_⟩
  refine ⟨rfl, ?_, start.containers, news.flatten, news'.flatten, rfl, rfl, hperm, ?_, ?_⟩
  · have hvolumes := hplaces.flatMap_right fun entry => entry.1.behaviour.volumes
    rw [List.flatMap_map] at hvolumes
    exact hvolumes.append_left start.volumes
  · intro c hc
    exact Container.relabel_of_unmarked (unmarked_of_no_addons hstart c hc)
  · intro c hc
    obtain ⟨new, hnew, hc⟩ := List.mem_flatten.mp hc
    obtain ⟨⟨addon, index⟩, haddon, hcontribution⟩ := exists_of_mem_right hnews hnew
    obtain ⟨group, -, -, containers, hcontainers, c', hc', rfl⟩ :=
      exists_of_mem_contribution hcontribution hc
    exact hnamed addon (List.fst_mem_of_mem_zipIdx haddon) group containers hcontainers c' hc'

end

end Assembly
end MeasuredJob
