import MeasuredJob.Proofs.Assembly.Contributions
import MeasuredJob.Proofs.Customization.Order

/-!
# One more volume

An addon that only mounts a volume contributes no container and changes none.  Put in among the
addons of a declaration it leaves what all plugins contribute and customize, apart from the marks:
the addons behind it move on by one place, and so do the marks that name them.
-/

namespace MeasuredJob

open Success

/-! ## Marks -/

/-- The same contributor after an addon has been put in at the place `n`. -/
def Contributor.makeRoom (n : ℕ) : Contributor → Contributor
  | .addon index => .addon (if index < n then index else index + 1)
  | contributor => contributor

def Container.makeRoom (n : ℕ) (container : Container) : Container :=
  container.remark (Option.map (Contributor.makeRoom n))

theorem Contributor.makeRoom_of_lt {n index : ℕ} (h : index < n) :
    makeRoom n (.addon index) = .addon index := by
  rw [makeRoom, if_pos h]

theorem Contributor.makeRoom_of_le {n index : ℕ} (h : n ≤ index) :
    makeRoom n (.addon index) = .addon (index + 1) := by
  rw [makeRoom, if_neg (Nat.not_lt.mpr h)]

/-- There is room behind the last addon. -/
theorem Container.makeRoom_eq_self {n : ℕ} {container : Container}
    (h : ∀ index, container.contributor = some (.addon index) → index < n) :
    container.makeRoom n = container := by
  have hmark : container.contributor.map (Contributor.makeRoom n) = container.contributor := by
    cases hcontributor : container.contributor with
    | none => rfl
    | some contributor =>
      cases contributor with
      | addon index => rw [Option.map_some, Contributor.makeRoom_of_lt (h index hcontributor)]
      | application | metric => rfl
  rw [makeRoom, remark, hmark]

/-! ## Mounts -/

/-- The addon adds a volume, contributes no container and changes none. -/
structure Addon.OnlyMounts (addon : Addon) (volume : Volume) : Prop where
  target : addon.scope.target = ""
  containers : ∀ group ctx, addon.containers group ctx = .ok []
  volumes : addon.volumes = [volume]
  idle : addon.Idle

theorem Mount.onlyMounts (kind : Mount.Kind) (options : Mount.Options) :
    (Mount.addon kind options).OnlyMounts (Mount.volume kind options) where
  target := rfl
  containers _ _ := rfl
  volumes := rfl
  idle := Addon.idle_of_id (fun _ => rfl) rfl

/-- An idle addon makes no difference to a container, wherever it is put in. -/
theorem visitAll_insert_of_idle {addon : Configured Addon} (h : addon.behaviour.Idle)
    (groups : List JobGroup) (before after : List (Configured Addon)) :
    visitAll groups (before ++ addon :: after) = visitAll groups (before ++ after) := by
  funext container
  rw [visitAll, visitAll, List.foldl_append, List.foldl_append, List.foldl_cons, h]

namespace Assembly

/-- The assembly with one more volume at the place `k`, and with room for an addon at the place
`n`. -/
def mounted (a : Assembly) (n k : ℕ) (volume : Volume) : Assembly :=
  { a with
    containers := a.containers.map (Container.makeRoom n)
    volumes := a.volumes.insertIdx k volume }

/-! ## The first phase -/

/-- What is there before the place `n` is marked with no later place. -/
theorem makeRoom_of_assemble {ctx : Context} {metrics : List (Configured Metric)}
    {addons : List (Configured Addon)} {a : Assembly}
    (h : assemble ctx { metrics, addons } = .ok a) :
    a.containers.map (Container.makeRoom addons.length) = a.containers := by
  refine (List.map_congr_left fun c hc => ?_).trans (List.map_id _)
  refine Container.makeRoom_eq_self fun index hmark => ?_
  cases origin_assemble h c hc with
  | metric hmetric happlication hcontainers hc =>
    rw [contributor_adoptFromMetric] at hmark
    cases hmark
  | application happ => cases hmark
  | addon haddon hgroup hcontainers hc =>
    cases hmark
    exact (List.getElem?_eq_some_iff.mp haddon).1

section

variable {ctx : Context} {addon : Configured Addon} {volume : Volume}

theorem addAddon_eq_ok_iff_of_onlyMounts (hmounts : addon.behaviour.OnlyMounts volume) {n : ℕ}
    {a b : Assembly} :
    addAddon ctx a (addon, n) = .ok b ↔ b = { a with volumes := a.volumes ++ [volume] } := by
  have hnone : contribution ctx a.groups (addon, n) = .ok [] := by
    rw [contribution_eq_ok (fun group => hmounts.containers group ctx)]
    simp
  have htarget : HasTarget a.groups addon.behaviour := .inl hmounts.target
  rw [addAddon_eq_ok_iff_contribution]
  simp only [htarget, hnone, hmounts.volumes, Except.ok.injEq, exists_eq_left', List.append_nil,
    true_and]

/-- The addons behind the place `n` contribute the same one place further on. -/
theorem forall₂_contribution_succ_iff {groups : List JobGroup} {addons : List (Configured Addon)}
    {n m : ℕ} (hnm : n ≤ m) {news' : List (List Container)} :
    List.Forall₂ (fun entry new => contribution ctx groups entry = .ok new)
        (addons.zipIdx (m + 1)) news' ↔
      ∃ news, List.Forall₂ (fun entry new => contribution ctx groups entry = .ok new)
          (addons.zipIdx m) news ∧
        news' = news.map (List.map (Container.makeRoom n)) := by
  rw [← forall₂_exists_eq_iff]
  induction addons generalizing m news' with
  | nil => simp only [List.zipIdx_nil, List.forall₂_nil_left_iff]
  | cons addon addons ih =>
    have hmoved : (some (.addon m)).map (Contributor.makeRoom n) = some (.addon (m + 1)) := by
      rw [Option.map_some, Contributor.makeRoom_of_le hnm]
    simp only [List.zipIdx_cons, List.forall₂_cons_left_iff, ih (Nat.le_succ_of_le hnm),
      contribution_eq_ok_iff_remark hmoved]
    rfl

theorem foldlM_addAddon_insert_iff (hmounts : addon.behaviour.OnlyMounts volume) {n : ℕ}
    {addons : List (Configured Addon)} {a b' : Assembly}
    (hroom : a.containers.map (Container.makeRoom n) = a.containers) :
    ((addon :: addons).zipIdx n).foldlM (addAddon ctx) a = .ok b' ↔
      ∃ b, (addons.zipIdx n).foldlM (addAddon ctx) a = .ok b ∧
        b' = b.mounted n a.volumes.length volume := by
  have hmounted (news : List (List Container)) (volumes : List Volume) :
      ({ a with
        containers := a.containers ++ news.flatten
        volumes := a.volumes ++ volumes } : Assembly).mounted n a.volumes.length volume =
      { a with
        containers := a.containers ++ (news.map (List.map (Container.makeRoom n))).flatten
        volumes := a.volumes ++ [volume] ++ volumes } := by
    rw [mounted, List.map_append, hroom, List.map_flatten, insertIdx_length_append,
      List.append_assoc, List.singleton_append]
  simp only [List.zipIdx_cons, List.foldlM_cons, bind_eq_ok_iff,
    addAddon_eq_ok_iff_of_onlyMounts hmounts, exists_eq_left, foldlM_addAddon_zipIdx_eq_ok_iff,
    forall₂_contribution_succ_iff (Nat.le_refl n)]
  constructor
  · rintro ⟨htargets, _, ⟨news, hnews, rfl⟩, rfl⟩
    exact ⟨_, ⟨htargets, news, hnews, rfl⟩, (hmounted news _).symm⟩
  · rintro ⟨_, ⟨htargets, news, hnews, rfl⟩, rfl⟩
    exact ⟨htargets, _, ⟨news, hnews, rfl⟩, hmounted news _⟩

/-- The first phase adds the volume behind those of the plugins before. -/
theorem assemble_insert_eq_ok_iff (hmounts : addon.behaviour.OnlyMounts volume)
    {metrics : List (Configured Metric)} {before after : List (Configured Addon)} {b' : Assembly} :
    assemble ctx { metrics, addons := before ++ addon :: after } = .ok b' ↔
      ∃ a b, assemble ctx { metrics, addons := before } = .ok a ∧
        assemble ctx { metrics, addons := before ++ after } = .ok b ∧
        b' = b.mounted before.length a.volumes.length volume := by
  simp only [assemble_append]
  constructor
  · rintro ⟨a, ha, hrest⟩
    obtain ⟨b, hb, rfl⟩ :=
      (foldlM_addAddon_insert_iff hmounts (makeRoom_of_assemble ha)).mp hrest
    exact ⟨a, b, ha, ⟨a, ha, hb⟩, rfl⟩
  · rintro ⟨a, b, ha, ⟨a', ha', hb⟩, rfl⟩
    obtain rfl := Except.ok.inj (ha.symm.trans ha')
    exact ⟨a, ha, (foldlM_addAddon_insert_iff hmounts (makeRoom_of_assemble ha)).mpr ⟨b, hb, rfl⟩⟩

/-- The volumes before the place are among all volumes. -/
theorem length_volumes_le {metrics : List (Configured Metric)}
    {before after : List (Configured Addon)} {a b : Assembly}
    (ha : assemble ctx { metrics, addons := before } = .ok a)
    (hb : assemble ctx { metrics, addons := before ++ after } = .ok b) :
    a.volumes.length ≤ b.volumes.length := by
  obtain ⟨a', ha', hrest⟩ := assemble_append.mp hb
  obtain rfl := Except.ok.inj (ha.symm.trans ha')
  obtain ⟨-, news, -, rfl⟩ := foldlM_addAddon_zipIdx_eq_ok_iff.mp hrest
  rw [List.length_append]
  exact Nat.le_add_right _ _

end

/-! ## Checks and customization -/

variable {a : Assembly} {n k : ℕ} {volume : Volume}

theorem mem_names_insertIdx {volumes : List Volume} (hk : k ≤ volumes.length) {name : String} :
    name ∈ (volumes.insertIdx k volume).map Volume.name ↔
      name = volume.name ∨ name ∈ volumes.map Volume.name := by
  rw [((List.perm_insertIdx volume volumes hk).map Volume.name).mem_iff, List.map_cons,
    List.mem_cons]

/-- Names are told apart when they were and the volume has a new one. -/
theorem checkUnique_mounted_iff (hk : k ≤ a.volumes.length) :
    (a.mounted n k volume).checkUnique = .ok () ↔
      a.checkUnique = .ok () ∧ volume.name ∉ a.volumes.map Volume.name := by
  have hkeys : (a.mounted n k volume).containers.map Container.key =
      a.containers.map Container.key := by
    rw [mounted, List.map_map]
    rfl
  have hvolumes : ((a.mounted n k volume).volumes.map Volume.name).Nodup ↔
      volume.name ∉ a.volumes.map Volume.name ∧ (a.volumes.map Volume.name).Nodup := by
    rw [mounted, ((List.perm_insertIdx volume a.volumes hk).map Volume.name).nodup_iff,
      List.map_cons, List.nodup_cons]
  rw [checkUnique_eq_ok_iff, checkUnique_eq_ok_iff, hkeys, hvolumes]
  tauto

theorem placed_mounted (h : a.Placed) : (a.mounted n k volume).Placed := by
  intro c' hc'
  obtain ⟨c, hc, rfl⟩ := List.mem_map.mp hc'
  exact h c hc

/-- The second phase goes as without the addon. -/
theorem customize_mounted {addon : Configured Addon} (hidle : addon.behaviour.Idle)
    {before after : List (Configured Addon)}
    (hof : ∀ other ∈ before ++ addon :: after, ∃ w : Wrapper, w.Describes other)
    (hmarks : ∀ other ∈ before ++ after, ∀ f c,
      other.behaviour.visit a.groups (Container.remark f c) =
        (other.behaviour.visit a.groups c).remark f)
    (hnames : (a.groups.map JobGroup.name).Nodup) (hplaced : a.Placed) :
    ∃ b, a.customize (before ++ after) = .ok b ∧
      (a.mounted n k volume).customize (before ++ addon :: after) = .ok (b.mounted n k volume) := by
  have hof' : ∀ other ∈ before ++ after, ∃ w : Wrapper, w.Describes other := fun other hother =>
    hof other (((List.sublist_cons_self addon after).append_left before).subset hother)
  have hnames' : ((a.mounted n k volume).groups.map JobGroup.name).Nodup := hnames
  have hvisited : (a.mounted n k volume).containers.map
        (visitAll a.groups (before ++ addon :: after)) =
      (a.containers.map (visitAll a.groups (before ++ after))).map (Container.makeRoom n) := by
    rw [visitAll_insert_of_idle hidle, mounted, List.map_map, List.map_map]
    exact List.map_congr_left fun c _ =>
      visitAll_remark (fun other hother c => hmarks other hother _ c) c
  refine ⟨_, customize_eq_ok hof' hnames hplaced, ?_⟩
  rw [customize_eq_ok hof hnames' (placed_mounted hplaced)]
  exact congrArg (fun containers => Except.ok { a.mounted n k volume with containers }) hvisited

end Assembly
end MeasuredJob
