import MeasuredJob.Proofs.Composition.Names
import MeasuredJob.Proofs.Composition.Stages
import MeasuredJob.Proofs.Customization.Offence

/-!
# Containers without a job group

Rendering looks up the job group of every container.  Where there is none it would report the
contributor of the container, and that is an index into the plugins of the declaration which an
addon of others may have set to anything.  A program that takes such an index as it is runs out of
its list.  `Declaration.composeIndexed` is composing in this way, with that way to stop besides the
errors.

Both phases see to it that no container comes to rendering without its job group.  So what would be
reported makes no difference, and no list is ever run out of.
-/

namespace MeasuredJob

open Assembly Failure Success

/-! ## Contributors by their indices -/

/-- How composing stops without a result where contributors are looked up by their indices. -/
inductive Stop where
  | failed (error : Error)
  /-- An index was beyond its list. -/
  | outOfRange
deriving DecidableEq, Repr

namespace Resolution

/-- Who contributed a container, when the index is taken as it is.  There is no name when the index
is beyond its list. -/
def indexedName? (resolution : Resolution) : Option Contributor → Option String
  | some (.metric i) => resolution.metrics[i]?.map Configured.identifier
  | some (.addon i) => resolution.addons[i]?.map Configured.identifier
  | some .application => some "application"
  | none => some "application"

theorem contributorName_eq {resolution : Resolution} {contributor : Option Contributor}
    {name : String} (h : resolution.indexedName? contributor = some name) :
    resolution.contributorName contributor = name := by
  cases contributor with
  | none => exact Option.some.inj h
  | some contributor =>
    cases contributor with
    | metric i => exact congrArg (Option.getD · "application") h
    | addon i => exact congrArg (Option.getD · "application") h
    | application => exact Option.some.inj h

/-- What is reported of a container without a job group. -/
def report (resolution : Resolution) (container : Container) : Stop :=
  match resolution.indexedName? container.contributor with
  | some name => .failed (.unknownJobGroup name container.jobGroup)
  | none => .outOfRange

theorem report_eq_outOfRange_iff {resolution : Resolution} {container : Container} :
    resolution.report container = .outOfRange ↔
      resolution.indexedName? container.contributor = none := by
  rw [report]
  cases resolution.indexedName? container.contributor <;> simp

/-- A contributor in the lists is reported by its name. -/
theorem report_eq_failed {resolution : Resolution} {container : Container}
    (h : (resolution.indexedName? container.contributor).isSome = true) :
    resolution.report container = .failed
      (.unknownJobGroup (resolution.contributorName container.contributor) container.jobGroup) := by
  obtain ⟨name, hname⟩ := Option.isSome_iff_exists.mp h
  rw [report, hname, contributorName_eq hname]

end Resolution

/-! ## Rendering with a report -/

namespace Composition

section

variable (report : Container → Stop) (ctx : Context) (interactive : Bool) (resolution : Resolution)

/-- Render one container, and stop with a report of it when its job group is not there. -/
def composeContainerOr (groups : List JobGroup) (anonymous : ℕ) (keys : List String)
    (container : Container) : Except Stop ComposedContainer :=
  match findGroup? groups container.jobGroup with
  | none => .error (report container)
  | some _ =>
    (composeContainer ctx interactive resolution groups anonymous keys container).mapError .failed

def composeContainersOr (groups : List JobGroup) : ℕ → List String → List Container →
    Except Stop (List ComposedContainer)
  | _, _, [] => .ok []
  | anonymous, keys, container :: rest => do
    let composed ← composeContainerOr report ctx interactive resolution groups anonymous keys
      container
    let others ← composeContainersOr groups (countAnonymous container anonymous)
      (composed.scriptKey?.toList ++ keys) rest
    pure (composed :: others)

def renderOr (assembly : Assembly) : Except Stop Composition := do
  let containers ← composeContainersOr report ctx interactive resolution assembly.groups 0 []
    assembly.containers
  let entrypointVolume := scriptVolume ctx (containers.filterMap ComposedContainer.scriptKey?)
  (Error.check (volumeClash? assembly.volumes entrypointVolume)).mapError .failed
  pure {
    name := ctx.setName
    jobGroups := assembly.groups
    containers
    volumes := assembly.volumes
    entrypointVolume
    resolved := resolution.uses }

end

variable {report : Container → Stop} {ctx : Context} {interactive : Bool} {resolution : Resolution}
  {groups : List JobGroup}

theorem composeContainerOr_eq_outOfRange_iff {anonymous : ℕ} {keys : List String}
    {container : Container} :
    composeContainerOr resolution.report ctx interactive resolution groups anonymous keys container =
        .error .outOfRange ↔
      findGroup? groups container.jobGroup = none ∧
        resolution.indexedName? container.contributor = none := by
  rw [composeContainerOr]
  cases findGroup? groups container.jobGroup with
  | none => simp [Resolution.report_eq_outOfRange_iff]
  | some group =>
    cases composeContainer ctx interactive resolution groups anonymous keys container <;>
      simp [Except.mapError]

/-- The report of a container is right, or there is no need for one. -/
def Reported (report : Container → Stop) (resolution : Resolution) (groups : List JobGroup)
    (container : Container) : Prop :=
  findGroup? groups container.jobGroup = none →
    report container = .failed
      (.unknownJobGroup (resolution.contributorName container.contributor) container.jobGroup)

theorem reported_of_hasGroup {container : Container}
    (h : hasGroup groups container.jobGroup = true) :
    Reported report resolution groups container := by
  obtain ⟨group, hgroup⟩ := exists_findGroup?_of_hasGroup h
  intro hnone
  cases hgroup.symm.trans hnone

theorem composeContainerOr_eq {anonymous : ℕ} {keys : List String} {container : Container}
    (h : Reported report resolution groups container) :
    composeContainerOr report ctx interactive resolution groups anonymous keys container =
      (composeContainer ctx interactive resolution groups anonymous keys container).mapError
        .failed := by
  rw [composeContainerOr]
  cases hgroup : findGroup? groups container.jobGroup with
  | none =>
    rw [h hgroup, composeContainer, hgroup]
    rfl
  | some group => rfl

theorem composeContainersOr_eq {containers : List Container}
    (h : ∀ c ∈ containers, Reported report resolution groups c) (anonymous : ℕ)
    (keys : List String) :
    composeContainersOr report ctx interactive resolution groups anonymous keys containers =
      (composeContainers ctx interactive resolution groups anonymous keys containers).mapError
        .failed := by
  -- Both runs number scripts and collect keys alike, so the induction is over any of these.
  induction containers generalizing anonymous keys with
  | nil => rfl
  | cons container rest ih =>
    have hfirst := h container List.mem_cons_self
    have hrest := ih fun c hc => h c (List.mem_cons_of_mem container hc)
    rw [composeContainersOr, composeContainers, mapError_bind, composeContainerOr_eq hfirst]
    refine bind_congr fun composed => ?_
    rw [hrest, mapError_bind]
    rfl

theorem renderOr_eq {assembly : Assembly}
    (h : ∀ c ∈ assembly.containers, Reported report resolution assembly.groups c) :
    renderOr report ctx interactive resolution assembly =
      (render ctx interactive resolution assembly).mapError .failed := by
  rw [renderOr, render, composeContainersOr_eq h, mapError_bind]
  refine bind_congr fun containers => ?_
  rw [mapError_bind]
  rfl

/-- A report differs from the error of rendering only where an index is beyond its list. -/
theorem renderOr_eq_of_indexed {assembly : Assembly}
    (h : ∀ c ∈ assembly.containers, (resolution.indexedName? c.contributor).isSome = true) :
    renderOr resolution.report ctx interactive resolution assembly =
      (render ctx interactive resolution assembly).mapError .failed :=
  renderOr_eq fun c hc _ => Resolution.report_eq_failed (h c hc)

theorem renderOr_eq_of_placed {assembly : Assembly} (h : assembly.Placed) :
    renderOr report ctx interactive resolution assembly =
      (render ctx interactive resolution assembly).mapError .failed :=
  renderOr_eq fun c hc => reported_of_hasGroup (h c hc)

example :
    renderOr (Resolution.report ⟨[], []⟩) (Sample.declaration.context "set" {}) false ⟨[], []⟩
        { containers := [
          { name := "own", jobGroup := "nowhere", image := "i", contributor := some (.addon 7)
            script := { command := { invocation := "help" } } }] } =
      .error .outOfRange := by
  decide

end Composition

/-! ## Composing with a report -/

namespace Declaration

/-- Compose, and stop with a report of a container whose job group is not there. -/
def composeOr (report : Resolution → Container → Stop) (registry : Registry) (settings : Settings)
    (name : String) (decl : Declaration) : Except Stop Composition :=
  if decl.metrics.isEmpty then .error (.failed .noMetrics)
  else do
    let resolution ← (registry.resolveAll decl).mapError .failed
    let ctx := decl.context name settings
    let assembly ← (Declaration.assembly resolution ctx).mapError .failed
    Composition.renderOr (report resolution) ctx decl.logging.interactive resolution assembly

def composeIndexed : Registry → Settings → String → Declaration → Except Stop Composition :=
  composeOr Resolution.report

theorem placed_assembly {resolution : Resolution} {ctx : Context} {a : Assembly}
    (h : Declaration.assembly resolution ctx = .ok a) : a.Placed := by
  obtain ⟨contributed, hassembled, -, hrevised, -⟩ := assembly_eq_ok_iff.mp h
  exact placed_customize hrevised (placed_assemble hassembled)

variable {registry : Registry} {settings : Settings} {name : String} {decl : Declaration}

theorem composeOr_eq (report : Resolution → Container → Stop) :
    decl.composeOr report registry settings name =
      (decl.compose registry settings name).mapError .failed := by
  rw [composeOr, compose]
  by_cases hmetrics : decl.metrics.isEmpty = true
  · rw [if_pos hmetrics, if_pos hmetrics]
    rfl
  · rw [if_neg hmetrics, if_neg hmetrics, mapError_bind]
    refine bind_congr fun resolution => ?_
    rw [mapError_bind]
    dsimp only
    cases hassembly : Declaration.assembly resolution (decl.context name settings) with
    | error e => rfl
    | ok assembly => exact Composition.renderOr_eq_of_placed (placed_assembly hassembly)

end Declaration

/-- Whatever the plugins are, the job group of every container that comes to rendering is there.  So
nothing depends on what would be reported of a container without one, and where the report looks up
the contributor by its index, no index is beyond its list. -/
theorem every_container_placed (registry : Registry) (settings : Settings) (name : String)
    (decl : Declaration) :
    (∀ resolution assembly, registry.resolveAll decl = .ok resolution →
      Declaration.assembly resolution (decl.context name settings) = .ok assembly →
      ∀ c ∈ assembly.containers, ∃ group, findGroup? assembly.groups c.jobGroup = some group) ∧
    (∀ report, decl.composeOr report registry settings name =
      (decl.compose registry settings name).mapError .failed) ∧
    decl.composeIndexed registry settings name ≠ .error .outOfRange := by
  refine ⟨fun resolution assembly _ hassembly c hc => ?_, Declaration.composeOr_eq, ?_⟩
  · exact exists_findGroup?_of_hasGroup (Declaration.placed_assembly hassembly c hc)
  · rw [Declaration.composeIndexed, Declaration.composeOr_eq]
    cases decl.compose registry settings name <;> simp [Except.mapError]

namespace Sample

/-- Moves its container to another job group, and marks it as a contribution of an addon that may not
be there. -/
def stray : Plugin Addon :=
  plugin "stray" fun scope => {
    scope
    containers := fun group _ => .ok [
      { name := "own", jobGroup := group.name, image := "i"
        script := { command := { invocation := "help" } } }]
    customize := fun _ containers => .ok ⟨containers.map fun c =>
      if c.name = "own" then { c with jobGroup := "b", contributor := some (.addon 7) } else c,
      List.length_map _⟩ }

/-- A registry with an addon that marks its container with an index of its own choice. -/
def straying : Registry :=
  Builtin.extend Registry.empty [.metric work, .addon stray]

/-- The only addon marks its container as one of the eighth. -/
def strayed : Declaration := {
  metrics := [{ name := "work" }]
  addons := [{ name := "stray", bag := target "a" }] }

end Sample

/-- An addon moves its container to another job group and marks it as a contribution of the eighth
addon, while there is only one. -/
theorem every_container_placed_of_strayed :
    ∃ resolution assembly, Sample.straying.resolveAll Sample.strayed = .ok resolution ∧
      Declaration.assembly resolution (Sample.strayed.context "set" {}) = .ok assembly ∧
      (∃ c ∈ assembly.containers, resolution.indexedName? c.contributor = none ∧
        ∃ group, findGroup? assembly.groups c.jobGroup = some group) ∧
      Sample.strayed.composeIndexed Sample.straying {} "set" ≠ .error .outOfRange := by
  have hrun : (do
      let resolution ← Sample.straying.resolveAll Sample.strayed
      let assembly ← Declaration.assembly resolution (Sample.strayed.context "set" {})
      pure (assembly.containers.any fun c => (resolution.indexedName? c.contributor).isNone) :
        Except Error Bool) = .ok true := by
    decide +kernel
  simp only [bind_eq_ok_iff, pure_eq_ok_iff, List.any_eq_true, Option.isNone_iff_eq_none] at hrun
  obtain ⟨resolution, hresolved, assembly, hassembly, c, hc, hstray⟩ := hrun
  obtain ⟨hplaced, -, hindexed⟩ := every_container_placed Sample.straying {} "set" Sample.strayed
  exact ⟨resolution, assembly, hresolved, hassembly,
    ⟨c, hc, hstray, hplaced resolution assembly hresolved hassembly c hc⟩, hindexed⟩

end MeasuredJob
