import Mathlib.Data.List.Infix
import MeasuredJob.Proofs.Composition.Stages
import MeasuredJob.Proofs.Script.Markers

/-!
# When a composition succeeds

What a script says matters for success only by the markers in it.  So a declaration composes exactly
when its assembly succeeds and can be rendered: its containers are in job groups that are there,
their keys are distinct and clash with no volume, and no contributed text contains a marker.
Searching the bytes of a text for a marker decides the last part without decoding the text.
-/

namespace MeasuredJob

open Success

def Assembly.scriptKeys (a : Assembly) : List String :=
  (Composition.withKeys 0 a.containers).filterMap Prod.snd

/-- The container can be rendered: its job group is there, and its script has no marker. -/
def Container.Ready (groups : List JobGroup) (container : Container) : Prop :=
  Assembly.hasGroup groups container.jobGroup = true ∧ container.script.foundMarker? = none

/-- The assembly can be rendered. -/
structure Assembly.Ready (ctx : Context) (a : Assembly) : Prop where
  containers : ∀ c ∈ a.containers, c.Ready a.groups
  distinct : a.scriptKeys.Nodup
  clash : Composition.volumeClash? a.volumes (Composition.scriptVolume ctx a.scriptKeys) = none

namespace Composition

variable {ctx : Context} {interactive : Bool} {resolution : Resolution}

theorem exists_composes_iff {groups : List JobGroup} {keyed : Container × Option String} :
    (∃ composed, Composes ctx interactive groups keyed composed) ↔ keyed.1.Ready groups := by
  constructor
  · intro h
    obtain ⟨composed, group, hgroup, script, hscript, -⟩ := h
    exact ⟨Assembly.hasGroup_of_findGroup? hgroup, (Script.render_eq_ok_iff.mp hscript).1⟩
  · intro h
    obtain ⟨group, hgroup⟩ := Assembly.exists_findGroup?_of_hasGroup h.1
    exact ⟨_, group, hgroup, _, Script.render_eq_ok_iff.mpr ⟨h.2, rfl⟩, rfl⟩

theorem forall_withKeys_iff (P : Container → Prop) (anonymous : ℕ) {containers : List Container} :
    (∀ keyed ∈ withKeys anonymous containers, P keyed.1) ↔ ∀ c ∈ containers, P c := by
  induction containers generalizing anonymous with
  | nil => simp [withKeys]
  | cons container rest ih => rw [withKeys, List.forall_mem_cons, List.forall_mem_cons, ih]

theorem exists_render_iff {a : Assembly} :
    (∃ c, render ctx interactive resolution a = .ok c) ↔ a.Ready ctx := by
  constructor
  · intro h
    obtain ⟨c, hc⟩ := h
    obtain ⟨containers, hcontainers, hclash, -⟩ := render_eq_ok_iff.mp hc
    obtain ⟨hcomposes, hdistinct, -⟩ := composeContainers_eq_ok_iff.mp hcontainers
    rw [scriptKeys_eq hcomposes] at hclash
    refine ⟨(forall_withKeys_iff (Container.Ready a.groups) 0).mp fun keyed hkeyed => ?_, hdistinct,
      hclash⟩
    obtain ⟨composed, -, hcomposed⟩ := exists_of_mem_left hcomposes hkeyed
    exact exists_composes_iff.mp ⟨composed, hcomposed⟩
  · intro h
    have hall : ∀ keyed ∈ withKeys 0 a.containers, keyed.1.Ready a.groups :=
      (forall_withKeys_iff (Container.Ready a.groups) 0).mpr h.containers
    obtain ⟨containers, hcomposes⟩ :=
      exists_forall₂_of_forall fun keyed hkeyed => exists_composes_iff.mpr (hall keyed hkeyed)
    have hcontainers : composeContainers ctx interactive resolution a.groups 0 [] a.containers =
        .ok containers :=
      composeContainers_eq_ok_iff.mpr ⟨hcomposes, h.distinct, fun _ _ => List.not_mem_nil⟩
    have hclash := h.clash
    rw [Assembly.scriptKeys, ← scriptKeys_eq hcomposes] at hclash
    exact ⟨_, render_eq_ok_iff.mpr ⟨containers, hcontainers, hclash, rfl⟩⟩

end Composition

section

variable {registry : Registry} {settings : Settings} {name : String} {decl : Declaration}

theorem compose_eq_ok_iff_render {c : Composition} :
    decl.compose registry settings name = .ok c ↔
      decl.metrics ≠ [] ∧ ∃ resolution assembly, registry.resolveAll decl = .ok resolution ∧
        Declaration.assembly resolution (decl.context name settings) = .ok assembly ∧
        Composition.render (decl.context name settings) decl.logging.interactive resolution
          assembly = .ok c := by
  rw [Declaration.compose]
  by_cases hmetrics : decl.metrics = []
  · simp [hmetrics]
  · have hdeclared : ¬decl.metrics.isEmpty = true := by
      rw [List.isEmpty_iff]
      exact hmetrics
    rw [if_neg hdeclared]
    simp [bind_eq_ok_iff, hmetrics]

/-- A declaration composes exactly when its assembly succeeds and can be rendered. -/
theorem exists_compose_iff :
    (∃ c, decl.compose registry settings name = .ok c) ↔
      decl.metrics ≠ [] ∧ ∃ resolution assembly, registry.resolveAll decl = .ok resolution ∧
        Declaration.assembly resolution (decl.context name settings) = .ok assembly ∧
        assembly.Ready (decl.context name settings) := by
  constructor
  · intro h
    obtain ⟨c, hc⟩ := h
    obtain ⟨hmetrics, resolution, assembly, hresolved, hassembly, hrendered⟩ :=
      compose_eq_ok_iff_render.mp hc
    exact ⟨hmetrics, resolution, assembly, hresolved, hassembly,
      Composition.exists_render_iff.mp ⟨c, hrendered⟩⟩
  · intro h
    obtain ⟨hmetrics, resolution, assembly, hresolved, hassembly, hready⟩ := h
    obtain ⟨c, hrendered⟩ := Composition.exists_render_iff.mpr hready
    exact ⟨c, compose_eq_ok_iff_render.mpr
      ⟨hmetrics, resolution, assembly, hresolved, hassembly, hrendered⟩⟩

end

/-! ## Looking for markers in bytes -/

def Script.bytesUnmarked (script : Script) : Bool :=
  script.contributedTexts.all fun text =>
    Marker.all.all fun m => !decide (Text.bytes m.text <:+: Text.bytes text)

theorem Script.foundMarker?_eq_none_of_bytes {script : Script} (h : script.bytesUnmarked = true) :
    script.foundMarker? = none := by
  refine foundMarker?_eq_none_iff.mpr fun text htext => ?_
  refine List.find?_eq_none.mpr fun m hm => ?_
  have hbytes : Text.bytes m.text <:+: Text.bytes text → False := by
    have hall := List.all_eq_true.mp (List.all_eq_true.mp h text htext) m hm
    simpa using hall
  rw [Text.occurs_eq_false_of_bytes hbytes]
  exact Bool.false_ne_true

/-- The assembly is seen to be ready, without a script being read. -/
def Assembly.looksReady (ctx : Context) (a : Assembly) : Bool :=
  (a.containers.all fun c => hasGroup a.groups c.jobGroup && c.script.bytesUnmarked) &&
    decide a.scriptKeys.Nodup &&
    (Composition.volumeClash? a.volumes (Composition.scriptVolume ctx a.scriptKeys)).isNone

theorem Assembly.ready_of_looksReady {ctx : Context} {a : Assembly}
    (h : a.looksReady ctx = true) : a.Ready ctx := by
  simp only [looksReady, Bool.and_eq_true, List.all_eq_true, decide_eq_true_eq,
    Option.isNone_iff_eq_none] at h
  obtain ⟨⟨hcontainers, hdistinct⟩, hclash⟩ := h
  refine ⟨fun c hc => ?_, hdistinct, hclash⟩
  obtain ⟨hplaced, hbytes⟩ := hcontainers c hc
  exact ⟨hplaced, Script.foundMarker?_eq_none_of_bytes hbytes⟩

/-- Resolve and assemble a declaration, see whether the assembly is ready, and check its
containers. -/
def Declaration.rehearse (registry : Registry) (settings : Settings) (name : String)
    (decl : Declaration) (check : List Container → Bool) : Except Error Bool := do
  let resolution ← registry.resolveAll decl
  let assembly ← Declaration.assembly resolution (decl.context name settings)
  pure (!decl.metrics.isEmpty && assembly.looksReady (decl.context name settings) &&
    check assembly.containers)

/-- A declaration that has been rehearsed composes, to containers that pass the check. -/
theorem exists_compose_of_rehearse {registry : Registry} {settings : Settings} {name : String}
    {decl : Declaration} {check : List Container → Bool}
    (h : decl.rehearse registry settings name check = .ok true) :
    ∃ c, decl.compose registry settings name = .ok c ∧
      check (c.containers.map ComposedContainer.spec) = true := by
  simp only [Declaration.rehearse, bind_eq_ok_iff, pure_eq_ok_iff, Bool.and_eq_true] at h
  obtain ⟨resolution, hresolved, assembly, hassembly, ⟨hdeclared, hlooks⟩, hcheck⟩ := h
  have hmetrics : decl.metrics ≠ [] := by
    intro hempty
    rw [hempty] at hdeclared
    exact absurd hdeclared Bool.false_ne_true
  obtain ⟨c, hrendered⟩ :=
    Composition.exists_render_iff.mpr (Assembly.ready_of_looksReady hlooks)
  refine ⟨c, compose_eq_ok_iff_render.mpr
    ⟨hmetrics, resolution, assembly, hresolved, hassembly, hrendered⟩, ?_⟩
  rw [Composition.specs_of_render hrendered]
  exact hcheck

/-- A container that passes a check in a rehearsal is one of the composition. -/
theorem exists_container_of_rehearse {registry : Registry} {settings : Settings} {name : String}
    {decl : Declaration} {fits : Container → Bool}
    (h : decl.rehearse registry settings name (List.any · fits) = .ok true) :
    ∃ c, decl.compose registry settings name = .ok c ∧ ∃ k ∈ c.containers, fits k.spec = true := by
  obtain ⟨c, hcompose, hcheck⟩ := exists_compose_of_rehearse h
  rw [List.any_map] at hcheck
  exact ⟨c, hcompose, List.any_eq_true.mp hcheck⟩

end MeasuredJob
