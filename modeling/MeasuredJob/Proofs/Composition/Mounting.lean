import MeasuredJob.Proofs.Assembly.Insertion
import MeasuredJob.Proofs.Composition.Roster
import MeasuredJob.Proofs.Customization.Registry

/-!
# Declarations with one more volume

A declaration is composed twice, the second time with an addon for a volume put in among its addons.
That addon takes part in every stage: the addons behind it have other places, it is checked and asked
for containers and customizations like all others, and its volume must not have the name of another
one, that with the scripts included.  For the rest the two runs go alike, so that the second one
succeeds when the first one does and the name is new, and then adds the volume and nothing else.
-/

namespace MeasuredJob

open Success

/-- The same container after an addon has been put in at the place `n`. -/
def ComposedContainer.makeRoom (n : ℕ) (container : ComposedContainer) : ComposedContainer :=
  container.remark (Option.map (Contributor.makeRoom n))

/-! ## Both phases -/

section

variable {ctx : Context} {metrics : List (Configured Metric)}
  {before after : List (Configured Addon)} {addon : Configured Addon} {volume : Volume}

theorem Declaration.length_volumes_le {a d : Assembly}
    (ha : Assembly.assemble ctx ⟨metrics, before⟩ = .ok a)
    (hd : Declaration.assembly ⟨metrics, before ++ after⟩ ctx = .ok d) :
    a.volumes.length ≤ d.volumes.length := by
  obtain ⟨b, hb, -, hcustomize, -⟩ := assembly_eq_ok_iff.mp hd
  rw [Assembly.volumes_customize hcustomize]
  exact Assembly.length_volumes_le ha hb

/-- Both phases add the volume behind those of the addons before, when its name is new. -/
theorem Declaration.assembly_insert_eq_ok_iff (hmounts : addon.behaviour.OnlyMounts volume)
    (hwraps : ∀ other ∈ before ++ addon :: after, ∃ w : Wrapper, w.Describes other)
    (hof : ∀ other ∈ before ++ addon :: after, ∃ bag, Builtin.AddonOf bag other.behaviour)
    {d' : Assembly} :
    Declaration.assembly ⟨metrics, before ++ addon :: after⟩ ctx = .ok d' ↔
      ∃ a d, Assembly.assemble ctx ⟨metrics, before⟩ = .ok a ∧
        Declaration.assembly ⟨metrics, before ++ after⟩ ctx = .ok d ∧
        volume.name ∉ d.volumes.map Volume.name ∧
        d' = d.mounted before.length a.volumes.length volume := by
  have hcustomize {b : Assembly} (hb : Assembly.assemble ctx ⟨metrics, before ++ after⟩ = .ok b)
      (k : ℕ) : ∃ d, b.customize (before ++ after) = .ok d ∧
        (b.mounted before.length k volume).customize (before ++ addon :: after) =
          .ok (d.mounted before.length k volume) := by
    refine Assembly.customize_mounted hmounts.idle hwraps (fun other hother f c => ?_)
      (Assembly.nodup_groups_assemble hb) (Assembly.placed_assemble hb)
    obtain ⟨bag, hother⟩ := hof other
      (((List.sublist_cons_self addon after).append_left before).subset hother)
    exact hother.visit_remark f _ c
  constructor
  · intro h
    obtain ⟨b', hb', hunique, hd', hunique'⟩ := assembly_eq_ok_iff.mp h
    obtain ⟨a, b, ha, hb, rfl⟩ := (Assembly.assemble_insert_eq_ok_iff hmounts).mp hb'
    obtain ⟨d, hd, hmounted⟩ := hcustomize hb a.volumes.length
    obtain rfl := Except.ok.inj (hd'.symm.trans hmounted)
    have hvolumes := Assembly.volumes_customize hd
    have hle := Assembly.length_volumes_le ha hb
    rw [Assembly.checkUnique_mounted_iff hle] at hunique
    rw [Assembly.checkUnique_mounted_iff (hvolumes ▸ hle)] at hunique'
    exact ⟨a, d, ha, assembly_eq_ok_iff.mpr ⟨b, hb, hunique.1, hd, hunique'.1⟩, hunique'.2, rfl⟩
  · rintro ⟨a, d, ha, h, hfresh, rfl⟩
    obtain ⟨b, hb, hunique, hd, hunique'⟩ := assembly_eq_ok_iff.mp h
    obtain ⟨d', hd', hmounted⟩ := hcustomize hb a.volumes.length
    obtain rfl := Except.ok.inj (hd.symm.trans hd')
    have hvolumes := Assembly.volumes_customize hd
    have hle := Assembly.length_volumes_le ha hb
    refine assembly_eq_ok_iff.mpr ⟨_, (Assembly.assemble_insert_eq_ok_iff hmounts).mpr
      ⟨a, b, ha, hb, rfl⟩, ?_, hmounted, ?_⟩
    · exact (Assembly.checkUnique_mounted_iff hle).mpr ⟨hunique, hvolumes ▸ hfresh⟩
    · exact (Assembly.checkUnique_mounted_iff (hvolumes ▸ hle)).mpr ⟨hunique', hfresh⟩

theorem Resolution.uses_insert :
    (Resolution.mk metrics (before ++ addon :: after)).uses =
      (Resolution.mk metrics (before ++ after)).uses.insertIdx (metrics.length + before.length)
        ⟨addon.identifier, .addon, addon.options⟩ := by
  have hplace := insertIdx_length_append
    (metrics.map (fun m => ResolvedUse.mk m.identifier .metric m.options) ++
      before.map fun a => ⟨a.identifier, .addon, a.options⟩)
    (after.map fun a => ⟨a.identifier, .addon, a.options⟩)
    ⟨addon.identifier, .addon, addon.options⟩
  rw [List.length_append, List.length_map, List.length_map] at hplace
  simp only [uses, List.map_append, List.map_cons, ← List.append_assoc]
  exact hplace.symm

end

/-! ## Rendering -/

namespace Composition

variable {ctx : Context} {interactive : Bool} {resolution' : Resolution}

theorem composeContainers_remark_eq_ok_iff (resolution : Resolution)
    {f : Option Contributor → Option Contributor}
    {groups : List JobGroup} {containers : List Container} {anonymous : ℕ} {keys : List String}
    {composed' : List ComposedContainer} :
    composeContainers ctx interactive resolution' groups anonymous keys
        (containers.map (Container.remark f)) = .ok composed' ↔
      ∃ composed, composeContainers ctx interactive resolution groups anonymous keys containers =
          .ok composed ∧
        composed' = composed.map (ComposedContainer.remark f) := by
  have hkeyed : withKeys anonymous (containers.map (Container.remark f)) =
      (withKeys anonymous containers).map (Prod.map (Container.remark f) id) :=
    withKeys_map (f := Container.remark f) (fun _ => rfl) (fun _ => rfl) containers anonymous
  have hkeys : (withKeys anonymous (containers.map (Container.remark f))).filterMap Prod.snd =
      (withKeys anonymous containers).filterMap Prod.snd := by
    rw [hkeyed, List.filterMap_map]
    rfl
  simp only [composeContainers_eq_ok_iff, hkeys]
  simp only [hkeyed, List.forall₂_map_left_iff, composes_remark_iff, forall₂_exists_eq_iff]
  constructor
  · rintro ⟨⟨composed, hcomposes, rfl⟩, hnodup, hfresh⟩
    exact ⟨composed, ⟨hcomposes, hnodup, hfresh⟩, rfl⟩
  · rintro ⟨composed, ⟨hcomposes, hnodup, hfresh⟩, rfl⟩
    exact ⟨⟨composed, hcomposes, rfl⟩, hnodup, hfresh⟩

theorem render_mounted_eq_ok_iff (resolution : Resolution) {a : Assembly} {n k : ℕ}
    {volume : Volume} (hk : k ≤ a.volumes.length) {c' : Composition} :
    render ctx interactive resolution' (a.mounted n k volume) = .ok c' ↔
      ∃ c, render ctx interactive resolution a = .ok c ∧
        volume.name ∉ c.entrypointVolume.toList.map Volume.name ∧
        c' = { c with
          containers := c.containers.map (ComposedContainer.makeRoom n)
          volumes := c.volumes.insertIdx k volume
          resolved := resolution'.uses } := by
  have hkeys (containers : List ComposedContainer) :
      (containers.map (ComposedContainer.makeRoom n)).filterMap ComposedContainer.scriptKey? =
        containers.filterMap ComposedContainer.scriptKey? := by
    rw [List.filterMap_map]
    rfl
  have hclash (volume? : Option Volume) :
      volumeClash? (a.mounted n k volume).volumes volume? = none ↔
        volumeClash? a.volumes volume? = none ∧ volume.name ∉ volume?.toList.map Volume.name := by
    rw [volumeClash?_eq_none_iff, volumeClash?_eq_none_iff, Assembly.mounted]
    simp only [Assembly.mem_names_insertIdx hk]
    cases volume? with
    | none => simp
    | some other =>
      simp only [Option.mem_def, Option.some.injEq, forall_eq', Option.toList_some, List.map_cons,
        List.map_nil, List.mem_singleton, not_or]
      rw [and_comm, eq_comm]
  have hcontainers (composed' : List ComposedContainer) :
      composeContainers ctx interactive resolution' (a.mounted n k volume).groups 0 []
          (a.mounted n k volume).containers = .ok composed' ↔
        ∃ composed, composeContainers ctx interactive resolution a.groups 0 [] a.containers =
            .ok composed ∧
          composed' = composed.map (ComposedContainer.makeRoom n) :=
    composeContainers_remark_eq_ok_iff resolution
  simp only [render_eq_ok_iff, hcontainers, hclash]
  constructor
  · rintro ⟨_, ⟨composed, hcomposed, rfl⟩, hclashes, rfl⟩
    rw [hkeys] at hclashes
    refine ⟨_, ⟨composed, hcomposed, hclashes.1, rfl⟩, hclashes.2, ?_⟩
    rw [hkeys]
    rfl
  · rintro ⟨_, ⟨composed, hcomposed, hnone, rfl⟩, hfresh, rfl⟩
    refine ⟨_, ⟨composed, hcomposed, rfl⟩, ?_, ?_⟩
    · rw [hkeys]
      exact ⟨hnone, hfresh⟩
    · rw [hkeys]
      rfl

end Composition

/-! ## Two compositions -/

theorem exists_render_insert_iff {ctx : Context} {interactive : Bool}
    {metrics : List (Configured Metric)} {before after : List (Configured Addon)}
    {addon : Configured Addon} {volume : Volume} (hmounts : addon.behaviour.OnlyMounts volume)
    (hwraps : ∀ other ∈ before ++ addon :: after, ∃ w : Wrapper, w.Describes other)
    (hof : ∀ other ∈ before ++ addon :: after, ∃ bag, Builtin.AddonOf bag other.behaviour)
    {c' : Composition} :
    (∃ d', Declaration.assembly ⟨metrics, before ++ addon :: after⟩ ctx = .ok d' ∧
        Composition.render ctx interactive ⟨metrics, before ++ addon :: after⟩ d' = .ok c') ↔
      ∃ a d c, Assembly.assemble ctx ⟨metrics, before⟩ = .ok a ∧
        Declaration.assembly ⟨metrics, before ++ after⟩ ctx = .ok d ∧
        Composition.render ctx interactive ⟨metrics, before ++ after⟩ d = .ok c ∧
        volume.name ∉ c.allVolumes.map Volume.name ∧
        c' = { c with
          containers := c.containers.map (ComposedContainer.makeRoom before.length)
          volumes := c.volumes.insertIdx a.volumes.length volume
          resolved := c.resolved.insertIdx (metrics.length + before.length)
            ⟨addon.identifier, .addon, addon.options⟩ } := by
  simp only [Declaration.assembly_insert_eq_ok_iff hmounts hwraps hof]
  constructor
  · rintro ⟨_, ⟨a, d, ha, hd, hfresh, rfl⟩, hrender⟩
    obtain ⟨c, hc, hscripts, rfl⟩ := (Composition.render_mounted_eq_ok_iff
      ⟨metrics, before ++ after⟩ (Declaration.length_volumes_le ha hd)).mp hrender
    refine ⟨a, d, c, ha, hd, hc, ?_, ?_⟩
    · rw [Composition.allVolumes, List.map_append, List.mem_append, not_or,
        Composition.volumes_of_render hc]
      exact ⟨hfresh, hscripts⟩
    · rw [Composition.resolved_of_render hc, Resolution.uses_insert]
  · rintro ⟨a, d, c, ha, hd, hc, hfresh, rfl⟩
    rw [Composition.allVolumes, List.map_append, List.mem_append, not_or,
      Composition.volumes_of_render hc] at hfresh
    obtain ⟨hfresh, hscripts⟩ := hfresh
    refine ⟨_, ⟨a, d, ha, hd, hfresh, rfl⟩, (Composition.render_mounted_eq_ok_iff
      ⟨metrics, before ++ after⟩ (Declaration.length_volumes_le ha hd)).mpr
      ⟨c, hc, hscripts, ?_⟩⟩
    rw [Composition.resolved_of_render hc, Resolution.uses_insert]

theorem Builtin.DeclaresAddon.eq_mount {use : PluginUse} {addon : Addon} {kind : Mount.Kind}
    (h : DeclaresAddon use addon) (hname : use.name = kind.identifier) :
    addon = Mount.addon kind (Mount.readOptions kind use.bag) := by
  cases h with
  | companion hcompanion =>
    rw [hcompanion] at hname
    cases kind <;> exact absurd hname (by decide)
  | profiler hprofiler =>
    rw [hprofiler] at hname
    cases kind <;> exact absurd hname (by decide)
  | @mount other hother =>
    rw [hother] at hname
    have hkind : other = kind := by
      cases other <;> cases kind <;> first | rfl | exact absurd hname (by decide)
    rw [hkind]

/-- The volumes of the addons before the place `n`. -/
theorem Assembly.length_volumes_take {decl : Declaration}
    {resolution : Resolution} {ctx : Context} {a : Assembly} {n : ℕ}
    (hresolved : Builtin.registry.resolveAll decl = .ok resolution)
    (h : assemble ctx (resolution.upTo n) = .ok a) :
    a.volumes.length = ((decl.addons.take n).filterMap PluginUse.volume?).length := by
  obtain ⟨hmetrics, haddons⟩ := Registry.resolveAll_eq_ok_iff.mp hresolved
  have hbefore : Builtin.registry.resolveAll { decl with addons := decl.addons.take n } =
      .ok (resolution.upTo n) :=
    Registry.resolveAll_eq_ok_iff.mpr ⟨hmetrics, List.forall₂_take n haddons⟩
  rw [(gains_assemble hbefore h).volumes]
  rfl

/-- The composition with one more volume, that of the declared addon, which is put in at the place
`n` among the addons. -/
def Composition.mounted (c : Composition) (decl : Declaration) (n : ℕ) (use : PluginUse)
    (options : OptionBag) (volume : Volume) : Composition :=
  { c with
    containers := c.containers.map (ComposedContainer.makeRoom n)
    volumes := c.volumes.insertIdx ((decl.addons.take n).filterMap PluginUse.volume?).length volume
    resolved := c.resolved.insertIdx (decl.metrics.length + n) ⟨use.name, .addon, options⟩ }

section

variable {decl : Declaration} {use : PluginUse} {kind : Mount.Kind} {addon : Configured Addon}
  {n : ℕ}

theorem exists_render_insertIdx_iff (hname : use.name = kind.identifier)
    (hconfigured : Builtin.registry.useAddon use = .ok addon) (hn : n ≤ decl.addons.length)
    {resolution : Resolution} (hresolved : Builtin.registry.resolveAll decl = .ok resolution)
    {ctx : Context} {interactive : Bool} {c' : Composition} :
    (∃ d', Declaration.assembly { resolution with addons := resolution.addons.insertIdx n addon }
          ctx = .ok d' ∧
        Composition.render ctx interactive
          { resolution with addons := resolution.addons.insertIdx n addon } d' = .ok c') ↔
      ∃ d c, Declaration.assembly resolution ctx = .ok d ∧
        Composition.render ctx interactive resolution d = .ok c ∧
        (Mount.volume kind (Mount.readOptions kind use.bag)).name ∉
          c.allVolumes.map Volume.name ∧
        c' = c.mounted decl n use addon.options
          (Mount.volume kind (Mount.readOptions kind use.bag)) := by
  have hresolved' := (Registry.resolveAll_insertIdx_eq_ok_iff hn).mpr
    ⟨resolution, addon, hresolved, hconfigured, rfl⟩
  have hwraps := Registry.onlyWraps_builtin.describes_of_resolveAll hresolved'
  have hof : ∀ other ∈ resolution.addons.insertIdx n addon, ∃ bag,
      Builtin.AddonOf bag other.behaviour := fun other hother =>
    (Builtin.exists_addonOf_of_resolveAll hresolved' other hother).imp' PluginUse.bag
      fun _ huse => huse.2.2
  have hmounts : addon.behaviour.OnlyMounts (Mount.volume kind (Mount.readOptions kind use.bag)) := by
    rw [(Builtin.declaresAddon_of_useAddon hconfigured).eq_mount hname]
    exact Mount.onlyMounts kind _
  have hvolumes (a : Assembly) := @Assembly.length_volumes_take decl resolution ctx a n hresolved
  obtain ⟨hmetrics, haddons⟩ := Registry.resolveAll_eq_ok_iff.mp hresolved
  rw [haddons.length_eq] at hn
  -- The addon stands between those before the place and the others.
  obtain ⟨metrics, addons⟩ := resolution
  obtain ⟨before, after, rfl, rfl⟩ : ∃ before after, addons = before ++ after ∧
      before.length = n :=
    ⟨addons.take n, addons.drop n, (List.take_append_drop n addons).symm,
      List.length_take_of_le hn⟩
  simp only [insertIdx_length_append] at hwraps hof ⊢
  simp only [Resolution.upTo, List.take_left] at hvolumes
  rw [exists_render_insert_iff hmounts hwraps hof]
  simp only [Composition.mounted, hmetrics.length_eq,
    ← Registry.identifier_of_useAddon hconfigured]
  constructor
  · rintro ⟨a, d, c, ha, hd, hc, hfresh, rfl⟩
    rw [hvolumes a ha]
    exact ⟨d, c, hd, hc, hfresh, rfl⟩
  · rintro ⟨d, c, hd, hc, hfresh, rfl⟩
    obtain ⟨b, hb, -⟩ := Declaration.assembly_eq_ok_iff.mp hd
    obtain ⟨a, ha, -⟩ := Assembly.assemble_append.mp hb
    rw [← hvolumes a ha]
    exact ⟨a, d, c, ha, hd, hc, hfresh, rfl⟩

end

/-- A volume is all that a mounting addon adds.  Put in at any place, it is composed with exactly
the declarations that compose without it and have no volume of that name, that with the scripts
included.  The composition then has one more volume and one more resolved addon, each at its place,
and containers refer to the new places of the addons behind. -/
theorem compose_insertIdx_mount_eq_ok_iff {settings : Settings} {name : String}
    {decl : Declaration} {use : PluginUse} {kind : Mount.Kind} {addon : Configured Addon} {n : ℕ}
    (hname : use.name = kind.identifier)
    (hconfigured : Builtin.registry.useAddon use = .ok addon) (hn : n ≤ decl.addons.length)
    {c' : Composition} :
    ({ decl with addons := decl.addons.insertIdx n use } : Declaration).compose Builtin.registry
        settings name = .ok c' ↔
      ∃ c, decl.compose Builtin.registry settings name = .ok c ∧
        (Mount.volume kind (Mount.readOptions kind use.bag)).name ∉
          c.allVolumes.map Volume.name ∧
        c' = c.mounted decl n use addon.options
          (Mount.volume kind (Mount.readOptions kind use.bag)) := by
  simp only [compose_eq_ok_iff_render, Registry.resolveAll_insertIdx_eq_ok_iff hn]
  constructor
  · rintro ⟨hdeclared, _, d', ⟨resolution, addon', hresolved, hconfigured', rfl⟩, hd', hc'⟩
    obtain rfl := Except.ok.inj (hconfigured.symm.trans hconfigured')
    obtain ⟨d, c, hd, hc, hfresh, rfl⟩ :=
      (exists_render_insertIdx_iff hname hconfigured hn hresolved).mp ⟨d', hd', hc'⟩
    exact ⟨c, ⟨hdeclared, resolution, d, hresolved, hd, hc⟩, hfresh, rfl⟩
  · rintro ⟨c, ⟨hdeclared, resolution, d, hresolved, hd, hc⟩, hfresh, rfl⟩
    obtain ⟨d', hd', hc'⟩ :=
      (exists_render_insertIdx_iff hname hconfigured hn hresolved).mpr ⟨d, c, hd, hc, hfresh, rfl⟩
    exact ⟨hdeclared, _, d', ⟨resolution, addon, hresolved, hconfigured, rfl⟩, hd', hc'⟩

namespace Sample

/-- A volume with a secret. -/
def secret : PluginUse :=
  { name := "volume-secret"
    bag := ((OptionBag.empty.setText "name" "token").setText "path" "/token").setText
      "secretName" "login" }

end Sample

/-- A secret between the companion and the profiler. -/
theorem mounted_in_observed :
    ∃ addon c c', Builtin.registry.useAddon Sample.secret = .ok addon ∧
      Sample.observed.compose Builtin.registry {} "set" = .ok c ∧
      ({ Sample.observed with addons := Sample.observed.addons.insertIdx 1 Sample.secret } :
        Declaration).compose Builtin.registry {} "set" = .ok c' ∧
      (Mount.volume .secret (Mount.readOptions .secret Sample.secret.bag)).name ∉
        c.allVolumes.map Volume.name ∧
      c' = c.mounted Sample.observed 1 Sample.secret addon.options
        (Mount.volume .secret (Mount.readOptions .secret Sample.secret.bag)) := by
  obtain ⟨addon, hconfigured⟩ : ∃ addon, Builtin.registry.useAddon Sample.secret = .ok addon :=
    exists_of_isOk (by decide +kernel)
  have hrehearsed : ({ Sample.observed with
      addons := Sample.observed.addons.insertIdx 1 Sample.secret } : Declaration).rehearse
        Builtin.registry {} "set" (fun _ => true) = .ok true := by
    decide +kernel
  obtain ⟨c', h', -⟩ := exists_compose_of_rehearse hrehearsed
  have hkind : Sample.secret.name = Mount.Kind.secret.identifier := rfl
  obtain ⟨c, h, hfresh, hmounted⟩ :=
    (compose_insertIdx_mount_eq_ok_iff hkind hconfigured (by decide)).mp h'
  exact ⟨addon, c, c', hconfigured, h, h', hfresh, hmounted⟩

end MeasuredJob
