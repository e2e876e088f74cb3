import MeasuredJob.Proofs.Composition.Names
import MeasuredJob.Proofs.Composition.Stages
import MeasuredJob.Proofs.Customization.Turns

/-!
# Ownership of containers

An addon is meant to rename and move only containers that it has contributed.  What is compared in
each turn is the mark of the container at that moment, and the owner of a container may change its
mark.  So the rule holds up to handovers: containers of metrics and of the application keep their
names and places whatever the addons do, and a container of an addon is renamed or moved by that
addon, or by one that has got it from hand to hand.
-/

namespace MeasuredJob

open Assembly

/-- Whoever renames or moves a container has contributed it in the first phase, or has been handed
it over, in turns before its own, by the one that did.  It has contributed the container itself
exactly when there was no such handover. -/
theorem owned_of_compose {registry : Registry} {settings : Settings} {name : String}
    {decl : Declaration} {c : Composition} (h : decl.compose registry settings name = .ok c) :
    ∃ resolution contributed customized,
      Stages registry settings name decl resolution contributed customized c ∧
      (∀ index < resolution.addons.length,
        ∃ found left, Turn resolution.addons contributed index found left) ∧
      ∀ index found left, Turn resolution.addons contributed index found left →
        ∀ i, left.keyAt i ≠ found.keyAt i → ∃ k ≤ index,
          ContributedBy (decl.context name settings) resolution k i ∧
          Relation.ReflTransGen (HandsOver resolution.addons contributed i) k index ∧
          (k = index ↔ ∀ j < index, ∀ j', ¬HandsOver resolution.addons contributed i j j') := by
  obtain ⟨resolution, contributed, customized, hstages⟩ := compose_eq_ok_iff.mp h
  refine ⟨resolution, contributed, customized, hstages,
    fun index hindex => exists_turn hstages.revised hindex,
    fun index found left hturn i hmoved => ?_⟩
  obtain ⟨k, hk, hmark, hchain, hown⟩ := hturn.handovers_of_displaced hmoved
  exact ⟨k, hk, (contributorAt_eq_addon_iff hstages.assembled).mp hmark, hchain, hown⟩

/-- An addon that renames and moves its own container. -/
theorem owned_of_renamed :
    ∃ c, Sample.declaration.compose Sample.registry {} "set" = .ok c ∧
      ∃ resolution contributed customized,
        Stages Sample.registry {} "set" Sample.declaration resolution contributed customized c ∧
        (∀ index < resolution.addons.length,
          ∃ found left, Turn resolution.addons contributed index found left) ∧
        ∀ index found left, Turn resolution.addons contributed index found left →
          ∀ i, left.keyAt i ≠ found.keyAt i → ∃ k ≤ index,
            ContributedBy (Sample.declaration.context "set" {}) resolution k i ∧
            Relation.ReflTransGen (HandsOver resolution.addons contributed i) k index ∧
            (k = index ↔
              ∀ j < index, ∀ j', ¬HandsOver resolution.addons contributed i j j') := by
  obtain ⟨c, h⟩ : ∃ c, Sample.declaration.compose Sample.registry {} "set" = .ok c :=
    Success.exists_of_isOk (by decide +kernel)
  exact ⟨c, h, owned_of_compose h⟩

namespace Sample

/-- Contributes a container to the targeted groups, and marks it as a contribution of the second
addon. -/
def donor : Plugin Addon :=
  plugin "donor" fun scope => {
    scope
    containers := fun group _ => .ok [
      { name := "own", jobGroup := group.name, image := "i"
        script := { command := { invocation := "help" } } }]
    customize := fun _ containers => .ok ⟨containers.map fun c =>
      if c.name = "own" then { c with contributor := some (.addon 1) } else c,
      List.length_map _⟩ }

/-- Renames the containers of others. -/
def taker : Plugin Addon :=
  plugin "taker" fun scope => {
    scope
    customize := fun _ containers => .ok ⟨containers.map fun c =>
      if c.name = "own" then { c with name := "taken" } else c, List.length_map _⟩ }

/-- A registry with an addon that gives its container away. -/
def giving : Registry :=
  Builtin.extend Registry.empty [.metric work, .addon donor, .addon taker]

/-- The first addon gives its container to the second one. -/
def given : Declaration := {
  metrics := [{ name := "work" }]
  addons := [{ name := "donor", bag := target "b" }, { name := "taker" }] }

end Sample

/-- The second addon renames a container that the first one has contributed and handed over. -/
theorem foreign_renamed_by_taker :
    ∃ c resolution contributed customized,
      Stages Sample.giving {} "set" Sample.given resolution contributed customized c ∧
      ∃ found left, Turn resolution.addons contributed 1 found left ∧
        found.keyAt 3 = some ("b", "own") ∧ left.keyAt 3 = some ("b", "taken") ∧
        ¬ContributedBy (Sample.given.context "set" {}) resolution 1 3 := by
  obtain ⟨c, h⟩ : ∃ c, Sample.given.compose Sample.giving {} "set" = .ok c :=
    Success.exists_of_isOk (by decide +kernel)
  obtain ⟨resolution, contributed, customized, hstages⟩ := compose_eq_ok_iff.mp h
  have hrun : (do
      let resolution ← Sample.giving.resolveAll Sample.given
      let contributed ← assemble (Sample.given.context "set" {}) resolution
      let found ← contributed.customize (resolution.addons.take 1)
      let left ← contributed.customize (resolution.addons.take 2)
      pure (decide (1 < resolution.addons.length ∧
        contributed.contributorAt 3 = some (.addon 0) ∧
        found.keyAt 3 = some ("b", "own") ∧ left.keyAt 3 = some ("b", "taken"))) :
        Except Error Bool) = .ok true := by
    decide +kernel
  simp only [Success.bind_eq_ok_iff, Success.pure_eq_ok_iff, decide_eq_true_eq] at hrun
  obtain ⟨resolution', hresolved, contributed', hassembled, found, hfound, left, hleft, hlength,
    hmark, hbefore, hafter⟩ := hrun
  obtain rfl : resolution = resolution' := Except.ok.inj (hstages.resolved.symm.trans hresolved)
  obtain rfl : contributed = contributed' :=
    Except.ok.inj (hstages.assembled.symm.trans hassembled)
  refine ⟨c, resolution, contributed, customized, hstages, found, left, ⟨hlength, hfound, hleft⟩,
    hbefore, hafter, ?_⟩
  rw [← contributorAt_eq_addon_iff hstages.assembled, hmark]
  simp

end MeasuredJob
