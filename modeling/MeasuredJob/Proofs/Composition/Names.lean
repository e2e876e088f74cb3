import MeasuredJob.Plugin.Builtin
import MeasuredJob.Proofs.Composition.Stages

/-!
# Names in a composition

Whoever reads a composition finds its parts by name: a container by its job group and its own name,
a job group, a volume, and a script by its key.  Plugins are free in the names they choose, and
addons may rename and move what they contributed, so each kind of name is checked at a moment of
its own: job groups when they are merged, containers and volumes after either phase, keys and the
volume with the scripts when scripts are rendered.
-/

namespace MeasuredJob

/-- No name of a composition stands for two things, and what a name refers to is there. -/
structure Composition.DistinctNames (c : Composition) : Prop where
  containers : (c.containers.map fun k => (k.spec.jobGroup, k.spec.name)).Nodup
  jobGroups : (c.jobGroups.map JobGroup.name).Nodup
  placed : ∀ k ∈ c.containers, k.spec.jobGroup ∈ c.jobGroups.map JobGroup.name
  volumes : (c.allVolumes.map Volume.name).Nodup
  scripts : (c.containers.filterMap ComposedContainer.scriptKey?).Nodup
  /-- Exactly the persisted scripts have keys. -/
  keyed : ∀ k ∈ c.containers, k.scriptKey?.isSome = k.spec.persistScript

theorem ComposedContainer.Renders.isSome_scriptKey? {ctx : Context} {interactive : Bool}
    {groups : List JobGroup} {container : Container} {composed : ComposedContainer}
    (h : composed.Renders ctx interactive groups container) :
    composed.scriptKey?.isSome = container.persistScript := by
  cases hpersist : container.persistScript with
  | true =>
    obtain ⟨key, hlaunch, -⟩ := h.persisted hpersist
    rw [scriptKey?, hlaunch]
    rfl
  | false =>
    rw [scriptKey?, (h.inShell hpersist).1]
    rfl

/-- Whatever its plugins do, the names of a composition are distinct. -/
theorem distinctNames_of_compose {registry : Registry} {settings : Settings} {name : String}
    {decl : Declaration} {c : Composition} (h : decl.compose registry settings name = .ok c) :
    c.DistinctNames := by
  obtain ⟨resolution, contributed, customized, hstages⟩ := compose_eq_ok_iff.mp h
  refine {
    containers := ?_
    jobGroups := hstages.nodup_jobGroups
    placed := fun k hk => ?_
    volumes := hstages.nodup_allVolumes
    scripts := hstages.nodup_scriptKeys
    keyed := fun k hk => (hstages.renders_of_mem hk).isSome_scriptKey? }
  · have hunique := (Assembly.checkUnique_eq_ok_iff.mp hstages.customizedUnique).1
    rw [← hstages.specs_eq, List.map_map] at hunique
    exact hunique
  · obtain ⟨group, hgroup, -⟩ := (hstages.renders_of_mem hk).script
    obtain ⟨hmem, hname⟩ := Assembly.name_of_findGroup? hgroup
    exact hname ▸ List.mem_map_of_mem hmem

/-! ## With plugins from outside the library -/

namespace Sample

/-- A plugin whose only options are those of its scope. -/
def plugin {α : Type} (identifier : String) (behaviour : Scope → α) : Plugin α where
  descriptor := { identifier, summary := "", family := .network }
  State := Scope
  fresh := {}
  configure bag _ := (Scope.read bag, none)
  validate _ := none
  options scope := scope.write OptionBag.empty
  behaviour := behaviour

/-- A container whose script has a name, one whose script has none, and one whose script is passed
to the shell, in two job groups. -/
def work : Plugin Metric :=
  plugin "work" fun _ => {
    kind := .workload
    jobGroups := fun ctx => [{ name := "a", replicas := 1 }, { name := "b", replicas := ctx.pods }]
    containers := fun _ => .ok [
      { name := "main", jobGroup := "a", image := "i"
        script := { name := some "main", command := { invocation := "run" } } },
      { name := "log", jobGroup := "a", image := "i"
        script := { command := { invocation := "log" } } },
      { name := "main", jobGroup := "b", image := "i"
        script := { command := { invocation := "run" } }, persistScript := false }] }

/-- Rename the container of the addon, and move it to another job group. -/
def rename (container : Container) : Container :=
  if container.name = "own" then { container with name := "new", jobGroup := "b" } else container

/-- Contributes a container to the targeted groups, and renames it in the second phase. -/
def renamer : Plugin Addon :=
  plugin "renamer" fun scope => {
    scope
    containers := fun group _ => .ok [
      { name := "own", jobGroup := group.name, image := "i"
        script := { name := some "own", command := { invocation := "help" } } }]
    volumes := [{ name := "own", source := .emptyDir, path := "/own" }]
    customize := fun _ containers => .ok ⟨containers.map rename, List.length_map rename⟩ }

/-- Sets up every container of the targeted groups, and traces each under its own name. -/
def tracer : Plugin Addon :=
  plugin "tracer" fun scope => {
    scope
    setup := fun group => some ("echo " ++ group.name)
    wrap := fun container => container.wrapCommand ("trace " ++ container.name) "" }

def registry : Registry :=
  Builtin.extend Registry.empty [.metric work, .addon renamer, .addon tracer]

def target (group : String) : OptionBag :=
  OptionBag.empty.setText "target" group

def declaration : Declaration := {
  metrics := [{ name := "work" }]
  addons := [{ name := "renamer", bag := target "a" }, { name := "tracer", bag := target "b" }] }

/-- Containers that stay alive after their scripts. -/
def interactive : Declaration := {
  logging := { interactive := true }
  metrics := [{ name := "work" }] }

end Sample

/-- The names stay distinct when an addon renames its container and moves it to another group. -/
theorem distinctNames_of_renamed :
    ∃ c, Sample.declaration.compose Sample.registry {} "set" = .ok c ∧ c.DistinctNames := by
  obtain ⟨c, h⟩ : ∃ c, Sample.declaration.compose Sample.registry {} "set" = .ok c :=
    Success.exists_of_isOk (by decide +kernel)
  exact ⟨c, h, distinctNames_of_compose h⟩

end MeasuredJob
