import MeasuredJob.Container.Basic
import MeasuredJob.JobGroup
import MeasuredJob.Volume
import MeasuredJob.Error

/-!
# Assemblies

What plugins have contributed so far.  Job groups are merged by name, while containers and volumes
are only collected: whether their names are unique is checked when all contributions are in.
-/

namespace MeasuredJob

structure Assembly where
  groups : List JobGroup := []
  containers : List Container := []
  volumes : List Volume := []
deriving DecidableEq, Inhabited

/-- The first element that is equal to an earlier one or to one of `seen`. -/
def firstRepeatAfter {α : Type} [DecidableEq α] (seen : List α) : List α → Option α
  | [] => none
  | x :: xs => if x ∈ seen then some x else firstRepeatAfter (x :: seen) xs

def firstRepeat? {α : Type} [DecidableEq α] (xs : List α) : Option α :=
  firstRepeatAfter [] xs

namespace Assembly

/-- Add a job group to a list of groups.  A group of that name that is already there stays in its
place with its replicas, and shares processes if either of the two does. -/
def mergeGroup (groups : List JobGroup) (group : JobGroup) : List JobGroup :=
  if groups.any fun g => g.name == group.name then
    groups.map fun g =>
      if g.name = group.name then
        { g with sharesProcesses := g.sharesProcesses || group.sharesProcesses }
      else g
  else groups ++ [group]

def mergeGroups (groups : List JobGroup) (more : List JobGroup) : List JobGroup :=
  more.foldl mergeGroup groups

def findGroup? (groups : List JobGroup) (name : String) : Option JobGroup :=
  groups.find? fun g => g.name == name

def hasGroup (groups : List JobGroup) (name : String) : Bool :=
  groups.any fun g => g.name == name

/-- The first container that has the job group and the name of an earlier one, or else the first
volume that has the name of an earlier one. -/
def repeated? (containers : List Container) (volumes : List Volume) : Option Error :=
  match firstRepeat? (containers.map Container.key) with
  | some (jobGroup, name) => some (.duplicateContainer jobGroup name)
  | none => (firstRepeat? (volumes.map Volume.name)).map .duplicateVolume

/-- Containers are told apart by job group and name, volumes by name. -/
def checkUnique (assembly : Assembly) : Except Error Unit :=
  Error.check (repeated? assembly.containers assembly.volumes)

end Assembly
end MeasuredJob
