import MeasuredJob.Proofs.Composition.Names
import MeasuredJob.Proofs.Composition.Stages

/-!
# Interactive mode

Whether containers stay alive is asked in one place, after everything else in a script has been
written.  So composing in interactive mode is composing without it and then adding a tail to every
script: one run is the other one mapped, and both fail with the same error.
-/

namespace MeasuredJob

open Success

/-- The same container with a tail behind its script, also where the script is passed to the
shell. -/
def ComposedContainer.keptAlive (settings : Settings) (container : ComposedContainer) :
    ComposedContainer :=
  let script := container.script ++ Script.interactiveTail settings.idleCommand
  match container.launch with
  | .persisted .. => { container with script }
  | .inline => Composition.inShell settings container.spec script

def Composition.keptAlive (settings : Settings) (c : Composition) : Composition :=
  { c with containers := c.containers.map (ComposedContainer.keptAlive settings) }

/-! ## Rendering -/

theorem Script.render_interactive (setName : String) (settings : Settings) (container : Container)
    (group : JobGroup) :
    render setName settings true container group =
      (render setName settings false container group).map
        (· ++ interactiveTail settings.idleCommand) := by
  have htext : text setName settings true container group =
      text setName settings false container group ++ interactiveTail settings.idleCommand := by
    simp only [text, if_true, Bool.false_eq_true, if_false, String.append_empty]
  rw [render, render]
  cases container.script.foundMarker? with
  | some marker => rfl
  | none => exact congrArg Except.ok htext

namespace Composition

variable {ctx : Context} {resolution : Resolution} {groups : List JobGroup}

theorem composeContainer_interactive (anonymous : ℕ) (keys : List String) (container : Container) :
    composeContainer ctx true resolution groups anonymous keys container =
      (composeContainer ctx false resolution groups anonymous keys container).map
        (ComposedContainer.keptAlive ctx.settings) := by
  rw [composeContainer, composeContainer]
  cases Assembly.findGroup? groups container.jobGroup with
  | none => rfl
  | some group =>
    dsimp only
    rw [Script.render_interactive]
    cases Script.render ctx.setName ctx.settings false container group with
    | error e => rfl
    | ok script =>
      by_cases hpersist : container.persistScript = true
      · by_cases hused : scriptKey container.script anonymous ∈ keys
        · simp [hpersist, hused, Except.map, bind, Except.bind, throw, throwThe,
            MonadExceptOf.throw]
        · simp [hpersist, hused, Except.map, bind, Except.bind, pure, Except.pure,
            ComposedContainer.keptAlive, persisted]
      · simp [hpersist, Except.map, bind, Except.bind, pure, Except.pure,
          ComposedContainer.keptAlive, inShell]

theorem scriptKey?_keptAlive (settings : Settings) (container : ComposedContainer) :
    (container.keptAlive settings).scriptKey? = container.scriptKey? := by
  rw [ComposedContainer.keptAlive]
  cases hlaunch : container.launch with
  | persisted key path => simp [ComposedContainer.scriptKey?, hlaunch]
  | inline => simp [ComposedContainer.scriptKey?, hlaunch, inShell]

/-- The containers are given the same keys in both modes. -/
theorem composeContainers_interactive (anonymous : ℕ) (keys : List String)
    (containers : List Container) :
    composeContainers ctx true resolution groups anonymous keys containers =
      (composeContainers ctx false resolution groups anonymous keys containers).map
        (List.map (ComposedContainer.keptAlive ctx.settings)) := by
  induction containers generalizing anonymous keys with
  | nil => rfl
  | cons container rest ih =>
    rw [composeContainers, composeContainers, composeContainer_interactive]
    cases composeContainer ctx false resolution groups anonymous keys container with
    | error e => rfl
    | ok first =>
      have hkey := scriptKey?_keptAlive ctx.settings first
      simp only [Except.map, bind, Except.bind, hkey, ih]
      cases composeContainers ctx false resolution groups (countAnonymous container anonymous)
        (first.scriptKey?.toList ++ keys) rest with
      | error e => rfl
      | ok others => rfl

theorem render_interactive (assembly : Assembly) :
    render ctx true resolution assembly =
      (render ctx false resolution assembly).map (Composition.keptAlive ctx.settings) := by
  rw [render, render, composeContainers_interactive]
  cases composeContainers ctx false resolution assembly.groups 0 [] assembly.containers with
  | error e => rfl
  | ok containers =>
    have hkeys : (containers.map (ComposedContainer.keptAlive ctx.settings)).filterMap
        ComposedContainer.scriptKey? = containers.filterMap ComposedContainer.scriptKey? := by
      rw [List.filterMap_map]
      exact List.filterMap_congr fun container _ => scriptKey?_keptAlive ctx.settings container
    simp only [Except.map, bind, Except.bind, hkeys]
    cases Error.check (volumeClash? assembly.volumes
      (scriptVolume ctx (containers.filterMap ComposedContainer.scriptKey?))) with
    | error e => rfl
    | ok done => rfl

end Composition

/-! ## Composing -/

/-- The declaration with the mode set. -/
def Declaration.withInteractive (decl : Declaration) (interactive : Bool) : Declaration :=
  { decl with logging := { interactive } }

/-- Nothing before the rendering knows of the mode. -/
theorem Declaration.compose_interactive (registry : Registry) (settings : Settings) (name : String)
    (decl : Declaration) :
    (decl.withInteractive true).compose registry settings name =
      ((decl.withInteractive false).compose registry settings name).map
        (Composition.keptAlive settings) := by
  have hrun (interactive : Bool) : (decl.withInteractive interactive).compose registry settings name =
      if decl.metrics.isEmpty then .error .noMetrics
      else registry.resolveAll decl >>= fun resolution =>
        assembly resolution (decl.context name settings) >>=
          Composition.render (decl.context name settings) interactive resolution := rfl
  rw [hrun, hrun]
  by_cases hmetrics : decl.metrics.isEmpty = true
  · rw [if_pos hmetrics, if_pos hmetrics]
    rfl
  · rw [if_neg hmetrics, if_neg hmetrics]
    cases registry.resolveAll decl with
    | error e => rfl
    | ok resolution =>
      show (assembly resolution (decl.context name settings) >>= _) =
        Except.map _ (assembly resolution (decl.context name settings) >>= _)
      cases assembly resolution (decl.context name settings) with
      | error e => rfl
      | ok assembly => exact Composition.render_interactive assembly

/-- `k'` is `k` with the tail behind its script.  The command differs only where it holds the script
itself, behind the shell and `-c`. -/
structure ComposedContainer.StaysAlive (tail : String) (k k' : ComposedContainer) : Prop where
  spec : k'.spec = k.spec
  script : k'.script = k.script ++ tail
  launch : k'.launch = k.launch
  persisted : k.launch ≠ .inline → k'.command = k.command
  inShell : k.launch = .inline → ∃ shell, k.command = [shell, "-c", k.script] ∧
    k'.command = [shell, "-c", k'.script]

/-- `c'` is `c` with one tail behind every script. -/
structure Composition.StaysAlive (tail : String) (c c' : Composition) : Prop where
  name : c'.name = c.name
  jobGroups : c'.jobGroups = c.jobGroups
  containers : List.Forall₂ (ComposedContainer.StaysAlive tail) c.containers c'.containers
  volumes : c'.volumes = c.volumes
  entrypointVolume : c'.entrypointVolume = c.entrypointVolume
  resolved : c'.resolved = c.resolved

theorem ComposedContainer.Renders.staysAlive {ctx : Context} {interactive : Bool}
    {groups : List JobGroup} {container : Container} {k : ComposedContainer}
    (h : k.Renders ctx interactive groups container) :
    k.StaysAlive (Script.interactiveTail ctx.settings.idleCommand) (k.keptAlive ctx.settings) := by
  cases hpersist : container.persistScript with
  | true =>
    obtain ⟨key, hlaunch, -⟩ := h.persisted hpersist
    rw [keptAlive, hlaunch]
    exact {
      spec := rfl
      script := rfl
      launch := hlaunch.symm
      persisted := fun _ => rfl
      inShell := fun hinline => by rw [hlaunch] at hinline; cases hinline }
  | false =>
    obtain ⟨hlaunch, hcommand⟩ := h.inShell hpersist
    rw [keptAlive, hlaunch]
    exact {
      spec := rfl
      script := rfl
      launch := hlaunch.symm
      persisted := fun hnot => absurd hlaunch hnot
      inShell := fun _ => ⟨ctx.settings.shell, hcommand, rfl⟩ }

/-- Interactive mode is purely additive.  A declaration fails in it exactly when it fails without it,
with the same error.  Otherwise every script goes on with an empty line, a notice and the idle
command, and nothing else is different. -/
theorem staysAlive_of_interactive (registry : Registry) (settings : Settings) (name : String)
    (decl : Declaration) :
    (∀ e, (decl.withInteractive true).compose registry settings name = .error e ↔
      (decl.withInteractive false).compose registry settings name = .error e) ∧
    ∀ c c', (decl.withInteractive false).compose registry settings name = .ok c →
      (decl.withInteractive true).compose registry settings name = .ok c' →
        c.StaysAlive ("\n" ++ "echo \"Interactive mode, keeping container alive\"\n" ++
          (Text.trimEnd settings.idleCommand ++ "\n")) c' := by
  rw [Declaration.compose_interactive]
  cases hcompose : (decl.withInteractive false).compose registry settings name with
  | error e => simp [Except.map]
  | ok c =>
    refine ⟨fun e => by simp [Except.map], fun c₁ c' hc₁ hc' => ?_⟩
    obtain rfl := Except.ok.inj hc₁
    obtain rfl := Except.ok.inj hc'
    obtain ⟨resolution, contributed, customized, hstages⟩ := compose_eq_ok_iff.mp hcompose
    refine {
      name := rfl
      jobGroups := rfl
      containers := ?_
      volumes := rfl
      entrypointVolume := rfl
      resolved := rfl }
    show List.Forall₂ _ c.containers (c.containers.map (ComposedContainer.keptAlive settings))
    rw [List.forall₂_map_right_iff, List.forall₂_same]
    exact fun k hk => (hstages.renders_of_mem hk).staysAlive

/-- Scripts that are persisted and one that is passed to the shell. -/
theorem staysAlive_of_sample :
    ∃ c c', (Sample.interactive.withInteractive false).compose Sample.registry {} "set" = .ok c ∧
      (Sample.interactive.withInteractive true).compose Sample.registry {} "set" = .ok c' ∧
      c.StaysAlive ("\n" ++ "echo \"Interactive mode, keeping container alive\"\n" ++
        (Text.trimEnd ({} : Settings).idleCommand ++ "\n")) c' := by
  obtain ⟨c, hc⟩ : ∃ c, (Sample.interactive.withInteractive false).compose Sample.registry {} "set" =
      .ok c := Success.exists_of_isOk (by decide +kernel)
  obtain ⟨c', hc'⟩ : ∃ c', (Sample.interactive.withInteractive true).compose Sample.registry {} "set" =
      .ok c' := Success.exists_of_isOk (by decide +kernel)
  exact ⟨c, c', hc, hc', (staysAlive_of_interactive Sample.registry {} "set" Sample.interactive).2
    c c' hc hc'⟩

end MeasuredJob
