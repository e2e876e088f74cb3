import MeasuredJob.Assembly.Customize
import MeasuredJob.Composition.Basic
import MeasuredJob.Script.Render

/-!
# Composing

A declaration is resolved, its plugins contribute, addons customize, and at last the scripts are
rendered and persisted scripts get their keys.  Names are checked after either phase.  The first
failure ends the composition and nothing of it is left.
-/

namespace MeasuredJob
namespace Composition

/-! ## Scripts -/

/-- The key of a persisted script.  Scripts without a name are numbered from zero on. -/
def scriptKey (script : Script) (anonymous : Nat) : String :=
  match script.name with
  | some name => name ++ "-entrypoint"
  | none => "entrypoint-" ++ anonymous.repr

/-- How many scripts without a name have been numbered, after one more container. -/
def countAnonymous (container : Container) (anonymous : Nat) : Nat :=
  if container.persistScript ∧ container.script.name = none then anonymous + 1 else anonymous

def persisted (settings : Settings) (container : Container) (script key : String) :
    ComposedContainer :=
  { spec := container
    script
    launch := .persisted key (settings.scriptPath key)
    command := [settings.shell, settings.scriptPath key] }

def inShell (settings : Settings) (container : Container) (script : String) : ComposedContainer :=
  { spec := container, script, launch := .inline, command := [settings.shell, "-c", script] }

/-- Render one container.  `anonymous` and `keys` tell what the containers before it have used. -/
def composeContainer (ctx : Context) (interactive : Bool) (resolution : Resolution)
    (groups : List JobGroup) (anonymous : Nat) (keys : List String) (container : Container) :
    Except Error ComposedContainer :=
  match Assembly.findGroup? groups container.jobGroup with
  | none =>
    .error (.unknownJobGroup (resolution.contributorName container.contributor) container.jobGroup)
  | some group => do
    let script ← Script.render ctx.setName ctx.settings interactive container group
    if container.persistScript then
      let key := scriptKey container.script anonymous
      if key ∈ keys then throw (.duplicateScript key)
      pure (persisted ctx.settings container script key)
    else pure (inShell ctx.settings container script)

def composeContainers (ctx : Context) (interactive : Bool) (resolution : Resolution)
    (groups : List JobGroup) : Nat → List String → List Container →
    Except Error (List ComposedContainer)
  | _, _, [] => .ok []
  | anonymous, keys, container :: rest => do
    let composed ← composeContainer ctx interactive resolution groups anonymous keys container
    let others ← composeContainers ctx interactive resolution groups
      (countAnonymous container anonymous) (composed.scriptKey?.toList ++ keys) rest
    pure (composed :: others)

/-- The volume that mounts the persisted scripts, one file for each key. -/
def scriptVolume (ctx : Context) (keys : List String) : Option Volume :=
  if keys.isEmpty then none
  else some {
    name := ctx.settings.entrypointVolume
    source := .configMap ctx.setName (Table.ofList (keys.map fun key => (key, key ++ ".sh")))
    path := ctx.settings.scriptRoot
    readOnly := true }

/-- A plugin's volume that has the name of the volume with the scripts. -/
def volumeClash? (volumes : List Volume) (scriptVolume : Option Volume) : Option Error :=
  match scriptVolume with
  | none => none
  | some volume =>
    if volumes.any fun v => v.name == volume.name then some (.duplicateVolume volume.name) else none

def render (ctx : Context) (interactive : Bool) (resolution : Resolution) (assembly : Assembly) :
    Except Error Composition := do
  let containers ← composeContainers ctx interactive resolution assembly.groups 0 []
    assembly.containers
  let entrypointVolume := scriptVolume ctx (containers.filterMap ComposedContainer.scriptKey?)
  Error.check (volumeClash? assembly.volumes entrypointVolume)
  pure {
    name := ctx.setName
    jobGroups := assembly.groups
    containers
    volumes := assembly.volumes
    entrypointVolume
    resolved := resolution.uses }

end Composition

/-- What the plugins of a declaration know.  A job has at least one pod. -/
def Declaration.context (decl : Declaration) (name : String) (settings : Settings) : Context :=
  { setName := name
    pods := if decl.pods = 0 then 1 else decl.pods
    application := decl.application
    settings }

def Declaration.assembly (resolution : Resolution) (ctx : Context) : Except Error Assembly := do
  let contributed ← Assembly.assemble ctx resolution
  contributed.checkUnique
  let customized ← contributed.customize resolution.addons
  customized.checkUnique
  pure customized

def Declaration.compose (registry : Registry) (settings : Settings) (name : String)
    (decl : Declaration) : Except Error Composition :=
  if decl.metrics.isEmpty then .error .noMetrics
  else do
    let resolution ← registry.resolveAll decl
    let ctx := decl.context name settings
    let assembly ← Declaration.assembly resolution ctx
    Composition.render ctx decl.logging.interactive resolution assembly

def Resource.compose (registry : Registry) (settings : Settings) (resource : Resource) :
    Except Error Composition :=
  match resource.metadata.name.bind nonEmpty? with
  | none => .error .missingName
  | some name => resource.declaration.compose registry settings name

end MeasuredJob
