import MeasuredJob.Assembly.Basic
import MeasuredJob.Resolution

/-!
# Contributions

The first phase: metrics contribute in declared order, the application joins its monitors, and then
addons contribute in declared order to the job groups that are there.  Every container is marked
with its contributor.
-/

namespace MeasuredJob
namespace Assembly

/-! ## Metrics -/

/-- Monitors share one job group, in which containers see each other's processes. -/
def monitorGroup (ctx : Context) : JobGroup :=
  { name := JobGroup.defaultName, replicas := ctx.pods, sharesProcesses := true }

def metricGroups (ctx : Context) (metric : Metric) : List JobGroup :=
  match metric.kind with
  | .monitor => [monitorGroup ctx]
  | .workload => metric.jobGroups ctx

/-- A container of the metric at `index`.  A monitor runs beside the application, whatever job
group it asks for, and may trace it. -/
def adoptFromMetric (kind : MetricKind) (index : Nat) (container : Container) : Container :=
  let adopted := { container with contributor := some (.metric index) }
  match kind with
  | .workload => adopted
  | .monitor =>
    { adopted with jobGroup := JobGroup.defaultName }.addCapability Security.traceCapability

def misplaced? (groups : List JobGroup) (identifier : String) (containers : List Container) :
    Option Error :=
  (containers.find? fun c => !hasGroup groups c.jobGroup).map fun c =>
    .unknownJobGroup identifier c.jobGroup

def addMetric (ctx : Context) (assembly : Assembly) (entry : Configured Metric × Nat) :
    Except Error Assembly := do
  let (⟨identifier, _, metric⟩, index) := entry
  if metric.requiresApplication && ctx.completeApplication?.isNone then
    throw (.missingApplication identifier)
  let groups := mergeGroups assembly.groups (metricGroups ctx metric)
  let contributed := (← metric.containers ctx).map (adoptFromMetric metric.kind index)
  Error.check (misplaced? groups identifier contributed)
  pure {
    groups
    containers := assembly.containers ++ contributed
    volumes := assembly.volumes ++ metric.volumes }

/-! ## The application -/

/-- Runs the application beside its monitors.  Its script is passed to the shell. -/
def applicationContainer (app : Application) : Container :=
  { name := Container.applicationName
    jobGroup := JobGroup.defaultName
    image := app.image
    workingDir := app.workingDir.bind nonEmpty?
    pullSecret := app.pullSecret.bind nonEmpty?
    script := { command := { invocation := app.startLine } }
    persistScript := false
    contributor := some .application }

/-- The application runs only where a monitor watches it. -/
def applicationContainers (ctx : Context) (metrics : List (Configured Metric)) : List Container :=
  if metrics.any fun m => m.behaviour.kind == .monitor then
    (ctx.completeApplication?.map applicationContainer).toList
  else []

/-! ## Addons -/

def adoptFromAddon (index : Nat) (group : JobGroup) (container : Container) : Container :=
  { container with contributor := some (.addon index), jobGroup := group.name }

def addonContainers (ctx : Context) (addon : Addon) (index : Nat) (group : JobGroup) :
    Except Error (List Container) := do
  let containers ← addon.containers group ctx
  pure (containers.map (adoptFromAddon index group))

def addAddon (ctx : Context) (assembly : Assembly) (entry : Configured Addon × Nat) :
    Except Error Assembly := do
  let (⟨identifier, _, addon⟩, index) := entry
  let target := addon.scope.target
  if target ≠ "" ∧ hasGroup assembly.groups target = false then
    throw (.unknownJobGroup identifier target)
  let targeted := assembly.groups.filter fun g => addon.scope.targetsGroup g.name
  let contributed ← targeted.mapM (addonContainers ctx addon index)
  pure { assembly with
    containers := assembly.containers ++ contributed.flatten
    volumes := assembly.volumes ++ addon.volumes }

/-! ## All of them -/

def assemble (ctx : Context) (resolution : Resolution) : Except Error Assembly := do
  let ofMetrics ← resolution.metrics.zipIdx.foldlM (addMetric ctx) {}
  let withApplication := { ofMetrics with
    containers := ofMetrics.containers ++ applicationContainers ctx resolution.metrics }
  resolution.addons.zipIdx.foldlM (addAddon ctx) withApplication

end Assembly
end MeasuredJob
