import MeasuredJob.Container.Basic
import MeasuredJob.JobGroup
import MeasuredJob.Volume
import MeasuredJob.Resolution

/-!
# Compositions

The result of composing a declaration: what a manifest needs to run the job.
-/

namespace MeasuredJob

/-- How the script of a container reaches it. -/
inductive Launch where
  /-- The config map holds the script under a key, and it is mounted at a path. -/
  | persisted (key path : String)
  | inline
deriving DecidableEq, Repr

structure ComposedContainer where
  spec : Container
  script : String
  launch : Launch
  command : List String
deriving DecidableEq

namespace ComposedContainer

def scriptKey? (container : ComposedContainer) : Option String :=
  match container.launch with
  | .persisted key _ => some key
  | .inline => none

end ComposedContainer

structure Composition where
  name : String
  jobGroups : List JobGroup
  containers : List ComposedContainer
  volumes : List Volume
  /-- The volume with the persisted scripts, when there are any. -/
  entrypointVolume : Option Volume
  resolved : List ResolvedUse
deriving DecidableEq

/-- The stored form of the persisted scripts of a composition. -/
structure ConfigMap where
  name : String
  space : String
  labels : Table String
  data : Table String
deriving DecidableEq

namespace Composition

def containersIn (composition : Composition) (jobGroup : String) : List ComposedContainer :=
  composition.containers.filter fun c => c.spec.jobGroup == jobGroup

def container? (composition : Composition) (jobGroup name : String) : Option ComposedContainer :=
  composition.containers.find? fun c => c.spec.jobGroup == jobGroup && c.spec.name == name

def jobGroup? (composition : Composition) (name : String) : Option JobGroup :=
  composition.jobGroups.find? fun g => g.name == name

def scripts (composition : Composition) : Table String :=
  Table.ofList (composition.containers.filterMap fun c => c.scriptKey?.map fun key => (key, c.script))

/-- The volumes of the plugins, and then the one with the scripts. -/
def allVolumes (composition : Composition) : List Volume :=
  composition.volumes ++ composition.entrypointVolume.toList

def mountedVolumes (composition : Composition) : List Volume :=
  composition.allVolumes.filter Volume.mount

/-- The label under which the objects of a composition are found. -/
def nameLabel : String := "metricset.flux-framework.org/name"

/-- The config map that has to exist before the job starts, when any script is persisted. -/
def configMap? (composition : Composition) (space : String) : Option ConfigMap :=
  if composition.scripts.isEmpty then none
  else some {
    name := composition.name
    space
    labels := Table.empty.insert nameLabel composition.name
    data := composition.scripts }

end Composition
end MeasuredJob
