import MeasuredJob.Assembly.Contribute

/-!
# Customization

The second phase: addons customize all containers in declared order.  Only the addon that
contributed a container may change what the container is called, where it runs and who is said to
have contributed it.  This is checked after every addon, against the containers before it.
-/

namespace MeasuredJob
namespace Assembly

/-- What only the contributor of a container may change. -/
def identity (container : Container) : String × String × Option Contributor :=
  (container.name, container.jobGroup, container.contributor)

/-- What is wrong with one container after the addon at `index`, if anything. -/
def offence? (groups : List JobGroup) (identifier : String) (index : Nat)
    (step : Container × Container) : Option Error :=
  let (before, after) := step
  if identity after ≠ identity before ∧ before.contributor ≠ some (.addon index) then
    some (.foreignContainerModified identifier before.jobGroup before.name)
  else if hasGroup groups after.jobGroup = false then
    some (.unknownJobGroup identifier after.jobGroup)
  else none

def customizeBy (assembly : Assembly) (entry : Configured Addon × Nat) : Except Error Assembly := do
  let (⟨identifier, _, addon⟩, index) := entry
  let revised ← addon.customize assembly.groups assembly.containers
  Error.check
    ((assembly.containers.zip revised.1).findSome? (offence? assembly.groups identifier index))
  pure { assembly with containers := revised.1 }

def customize (addons : List (Configured Addon)) (assembly : Assembly) : Except Error Assembly :=
  addons.zipIdx.foldlM customizeBy assembly

end Assembly
end MeasuredJob
