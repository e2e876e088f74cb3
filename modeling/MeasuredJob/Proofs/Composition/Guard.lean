import MeasuredJob.Proofs.Assembly.Contributions
import MeasuredJob.Proofs.Composition.Names
import MeasuredJob.Proofs.Composition.Stages
import MeasuredJob.Proofs.Customization.Offence

/-!
# What addons may change

Addons of others may edit every container.  What is guarded is its identity: its name, its job group
and the mark of its contributor.  A turn in which an addon changes the identity of a container that
is not marked with it ends the composition, and so does one that leaves a container in a job group
that is not there.  So the containers of metrics and the application come out as they went in, and
those of an addon stay as they are until its own turn.
-/

namespace MeasuredJob

open Assembly Success

/-! ## Turns of a composition -/

/-- The composition has come to the turn of the addon at `index`, which finds the assembly that the
turns before it have left. -/
structure Reaches (registry : Registry) (settings : Settings) (name : String) (decl : Declaration)
    (resolution : Resolution) (contributed : Assembly) (index : ℕ) (addon : Configured Addon)
    (found : Assembly) : Prop where
  declared : decl.metrics ≠ []
  resolved : registry.resolveAll decl = .ok resolution
  assembled : assemble (decl.context name settings) resolution = .ok contributed
  contributedUnique : contributed.checkUnique = .ok ()
  addon_eq : resolution.addons[index]? = some addon
  found_eq : contributed.customize (resolution.addons.take index) = .ok found

section

variable {registry : Registry} {settings : Settings} {name : String} {decl : Declaration}
  {resolution : Resolution} {contributed found : Assembly} {index : ℕ} {addon : Configured Addon}

theorem Reaches.customize_take_succ
    (h : Reaches registry settings name decl resolution contributed index addon found)
    {left : Assembly} :
    contributed.customize (resolution.addons.take (index + 1)) = .ok left ↔
      customizeBy found (addon, index) = .ok left := by
  obtain ⟨hlt, haddon⟩ := List.getElem?_eq_some_iff.mp h.addon_eq
  rw [Assembly.customize_take_succ hlt, h.found_eq, haddon]
  simp

theorem Reaches.compose_eq_error
    (h : Reaches registry settings name decl resolution contributed index addon found) {e : Error}
    (herror : customizeBy found (addon, index) = .error e) :
    decl.compose registry settings name = .error e := by
  have hcustomize := customize_eq_error h.addon_eq h.found_eq herror
  have hdeclared : decl.metrics.isEmpty = false := by
    rw [List.isEmpty_eq_false_iff]
    exact h.declared
  rw [Declaration.compose, hdeclared]
  simp [h.resolved, Declaration.assembly, h.assembled, h.contributedUnique, hcustomize, bind,
    Except.bind]

end

/-! ## Containers that no addon contributed -/

namespace Assembly

/-- The container at the place `i` was there before the addons: a metric contributed it, or it is
the application. -/
def PrecedesAddons (ctx : Context) (resolution : Resolution) (i : ℕ) : Prop :=
  ∃ start, assemble ctx (resolution.upTo 0) = .ok start ∧ i < start.containers.length

section

variable {ctx : Context} {resolution : Resolution} {a : Assembly} {i : ℕ}

theorem PrecedesAddons.exists_getElem? (h : PrecedesAddons ctx resolution i)
    (hassembled : assemble ctx resolution = .ok a) :
    ∃ c, a.containers[i]? = some c ∧ ∀ index, c.contributor ≠ some (.addon index) := by
  obtain ⟨start, hstart, hi⟩ := h
  obtain ⟨start', hstart', haddons⟩ := assemble_eq_ok_iff_start.mp hassembled
  obtain rfl : start = start' := Except.ok.inj (hstart.symm.trans hstart')
  -- Addons put their containers behind those that are there, which keep their places.
  obtain ⟨-, news, -, rfl⟩ := foldlM_addAddon_eq_ok_iff.mp haddons
  refine ⟨start.containers[i], ?_, unmarked_of_no_addons hstart _ (List.getElem_mem hi)⟩
  rw [List.getElem?_append_left hi, List.getElem?_eq_getElem hi]

theorem PrecedesAddons.contributorAt_ne (h : PrecedesAddons ctx resolution i)
    (hassembled : assemble ctx resolution = .ok a) (index : ℕ) :
    a.contributorAt i ≠ some (.addon index) := by
  obtain ⟨c, hc, hunmarked⟩ := h.exists_getElem? hassembled
  rw [contributorAt, hc]
  exact hunmarked index

theorem PrecedesAddons.isSome_identityAt (h : PrecedesAddons ctx resolution i)
    (hassembled : assemble ctx resolution = .ok a) : (a.identityAt i).isSome = true := by
  obtain ⟨c, hc, -⟩ := h.exists_getElem? hassembled
  rw [identityAt, hc]
  rfl

end

end Assembly

section

variable {registry : Registry} {settings : Settings} {name : String} {decl : Declaration}
  {resolution : Resolution} {contributed customized : Assembly} {c : Composition}

/-- Nobody takes a container away from the metrics or from the application. -/
theorem Stages.identity_of_precedesAddons
    (h : Stages registry settings name decl resolution contributed customized c) {i : ℕ}
    (hfirst : PrecedesAddons (decl.context name settings) resolution i) :
    (c.containers[i]?.map fun k => identity k.spec) = contributed.identityAt i := by
  have hrevised : contributed.customize (resolution.addons.take resolution.addons.length) =
      .ok customized := by
    rw [List.take_length]
    exact h.revised
  have hkept := identityAt_kept _ (Nat.le_refl _)
    (fun index _ => hfirst.contributorAt_ne h.assembled index) customized hrevised
  rw [← hkept, identityAt, ← h.specs_eq, List.getElem?_map, Option.map_map]
  rfl

/-- Nobody takes a container away from an addon before its turn. -/
theorem Stages.identityAt_of_contributedBy
    (h : Stages registry settings name decl resolution contributed customized c) {index i : ℕ}
    (hby : ContributedBy (decl.context name settings) resolution index i) {n : ℕ} (hn : n ≤ index)
    {found : Assembly}
    (hfound : contributed.customize (resolution.addons.take n) = .ok found) :
    found.identityAt i = contributed.identityAt i := by
  have hmark := (contributorAt_eq_addon_iff h.assembled).mpr hby
  have hlength : n ≤ resolution.addons.length := by
    by_contra hlonger
    exact not_contributedBy_of_length_le (by omega) hby
  refine identityAt_kept n hlength (fun k hk hmark' => ?_) found hfound
  rw [hmark] at hmark'
  cases hmark'
  exact absurd hk (Nat.not_lt.mpr hn)

end

/-- What the second phase guarantees of arbitrary addons.  A turn goes on exactly when the addon
succeeds and treats all containers as permitted.  Otherwise the composition fails with the error of
the addon or with its first offence.  So a container of a metric or of the application keeps its
identity and its place to the end, and a container of an addon until the turn of that addon. -/
theorem identity_guarded (registry : Registry) (settings : Settings) (name : String)
    (decl : Declaration) :
    (∀ resolution contributed index addon found,
      Reaches registry settings name decl resolution contributed index addon found →
      (∀ left, contributed.customize (resolution.addons.take (index + 1)) = .ok left ↔
        ∃ revised, addon.behaviour.customize found.groups found.containers = .ok revised ∧
          PermitsAll found.groups index found.containers revised.1 ∧
          left = { found with containers := revised.1 }) ∧
      (∀ e, addon.behaviour.customize found.groups found.containers = .error e →
        decl.compose registry settings name = .error e) ∧
      ∀ revised, addon.behaviour.customize found.groups found.containers = .ok revised →
        ¬PermitsAll found.groups index found.containers revised.1 →
        ∃ e, FirstOffence found.groups addon.identifier index found.containers revised.1 e ∧
          decl.compose registry settings name = .error e) ∧
    ∀ resolution contributed customized c,
      Stages registry settings name decl resolution contributed customized c →
      (∀ i, PrecedesAddons (decl.context name settings) resolution i →
        (contributed.identityAt i).isSome = true ∧
          (c.containers[i]?.map fun k => identity k.spec) = contributed.identityAt i) ∧
      ∀ index i, ContributedBy (decl.context name settings) resolution index i →
        (contributed.identityAt i).isSome = true ∧
          ∀ n ≤ index, ∀ found, contributed.customize (resolution.addons.take n) = .ok found →
            found.identityAt i = contributed.identityAt i := by
  constructor
  · intro resolution contributed index addon found hreaches
    refine ⟨fun left => ?_, fun e herror => ?_, fun revised hrevised hoffence => ?_⟩
    · rw [hreaches.customize_take_succ, customizeBy_eq_ok_iff_permits]
    · exact hreaches.compose_eq_error (customizeBy_eq_error_iff.mpr (.inl herror))
    · obtain ⟨e, hfirst⟩ := exists_firstOffence hoffence
      exact ⟨e, hfirst, hreaches.compose_eq_error
        (customizeBy_eq_error_iff.mpr (.inr ⟨revised, hrevised, hfirst⟩))⟩
  · intro resolution contributed customized c hstages
    refine ⟨fun i hfirst => ⟨?_, hstages.identity_of_precedesAddons hfirst⟩,
      fun index i hby => ⟨?_, fun n hn found hfound =>
        hstages.identityAt_of_contributedBy hby hn hfound⟩⟩
    · exact hfirst.isSome_identityAt hstages.assembled
    · have hmark := (contributorAt_eq_addon_iff hstages.assembled).mpr hby
      rw [contributorAt_eq_identityAt] at hmark
      obtain ⟨e, he, -⟩ := Option.bind_eq_some_iff.mp hmark
      rw [he]
      rfl

namespace Sample

/-- Renames a container of the metric, and moves it to a job group that is not there. -/
def meddler : Plugin Addon :=
  plugin "meddler" fun scope => {
    scope
    customize := fun _ containers => .ok ⟨containers.map fun c =>
      if c.name = "log" then { c with name := "taken", jobGroup := "nowhere" } else c,
      List.length_map _⟩ }

/-- A registry with an addon that changes what is not its own. -/
def meddling : Registry :=
  Builtin.extend Registry.empty [.metric work, .addon renamer, .addon meddler]

/-- The second addon changes a container of the metric. -/
def meddled : Declaration := {
  metrics := [{ name := "work" }]
  addons := [{ name := "renamer", bag := target "a" }, { name := "meddler" }] }

end Sample

/-- The first addon changes its own container and the turn goes on.  The second one renames a
container of the metric and moves it where there is no job group: what is reported is that the
container is not its own. -/
theorem identity_guarded_of_meddled :
    (∃ resolution contributed addon found revised,
      Reaches Sample.meddling {} "set" Sample.meddled resolution contributed 1 addon found ∧
      addon.behaviour.customize found.groups found.containers = .ok revised ∧
      ∃ e, FirstOffence found.groups addon.identifier 1 found.containers revised.1 e ∧
        Sample.meddled.compose Sample.meddling {} "set" = .error e) ∧
    Sample.meddled.compose Sample.meddling {} "set" =
      .error (.foreignContainerModified "meddler" "a" "log") := by
  refine ⟨?_, by decide +kernel⟩
  have hrun : (do
      let resolution ← Sample.meddling.resolveAll Sample.meddled
      let contributed ← assemble (Sample.meddled.context "set" {}) resolution
      contributed.checkUnique
      let found ← contributed.customize (resolution.addons.take 1)
      match resolution.addons[1]? with
      | none => pure false
      | some addon =>
        let revised ← addon.behaviour.customize found.groups found.containers
        pure (decide (found.containers[1]?.isSome = true ∧
          revised.1[1]?.map Container.jobGroup = some "nowhere" ∧
          "nowhere" ∉ found.groups.map JobGroup.name)) : Except Error Bool) = .ok true := by
    decide +kernel
  simp only [bind_eq_ok_iff] at hrun
  obtain ⟨resolution, hresolved, contributed, hassembled, ⟨⟩, hunique, found, hfound, hrun⟩ := hrun
  cases haddon : resolution.addons[1]? with
  | none => simp [haddon] at hrun
  | some addon =>
    simp only [haddon, bind_eq_ok_iff, pure_eq_ok_iff, decide_eq_true_eq] at hrun
    obtain ⟨revised, hrevised, hbefore, hmoved, hnone⟩ := hrun
    have hreaches : Reaches Sample.meddling {} "set" Sample.meddled resolution contributed 1 addon
        found := ⟨by decide, hresolved, hassembled, hunique, haddon, hfound⟩
    have hoffence : ¬PermitsAll found.groups 1 found.containers revised.1 := by
      intro hpermits
      obtain ⟨c, hc⟩ := Option.isSome_iff_exists.mp hbefore
      obtain ⟨c', hc', hgroup⟩ := Option.map_eq_some_iff.mp hmoved
      exact hnone (hgroup ▸ (hpermits 1 c c' hc hc').placed)
    exact ⟨resolution, contributed, addon, found, revised, hreaches, hrevised,
      ((identity_guarded Sample.meddling {} "set" Sample.meddled).1 resolution contributed 1 addon
        found hreaches).2.2 revised hrevised hoffence⟩

end MeasuredJob
