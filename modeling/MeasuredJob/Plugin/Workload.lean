import MeasuredJob.Plugin.Basic
import MeasuredJob.Shell

/-!
# Workloads with a launcher

One pod writes the list of hosts and runs the measured command under a launcher.  The other pods
are workers, which idle until the launcher is done.
-/

namespace MeasuredJob

/-- What one such workload is by default. -/
structure Workload where
  descriptor : Descriptor
  command : String
  workdir : String

namespace Workload

/-- The launcher when none is given. -/
def defaultLauncher : String := "mpirun --hostfile ./hostlist.txt"

def hostFile : String := "./hostlist.txt"

/-- The name of the containers that idle. -/
def workerContainer : String := "worker"

structure Options where
  command : String
  launcher : String
  workdir : String
  image : String
deriving DecidableEq, Repr

def fresh (workload : Workload) : Options :=
  { command := ""
    launcher := defaultLauncher
    workdir := workload.workdir
    image := workload.descriptor.defaultImage }

def readOptions (workload : Workload) (bag : OptionBag) : Options :=
  { command := bag.textOr "command" ""
    launcher := bag.textOr "mpirun" defaultLauncher
    workdir := bag.textOr "workdir" workload.workdir
    image := bag.textOr "image" workload.descriptor.defaultImage }

def Options.write (options : Options) : OptionBag :=
  OptionBag.empty
    |>.setText "command" options.command
    |>.setText "mpirun" options.launcher
    |>.setText "workdir" options.workdir
    |>.setText "image" options.image

def validate (workload : Workload) (options : Options) : Option Error :=
  if options.image = "" then
    some (.validation workload.descriptor.identifier "image" "a container 'image' is required")
  else none

/-- The measured command: the option, else the command of the application, else the default. -/
def measured (workload : Workload) (options : Options) (ctx : Context) : String :=
  if options.command ≠ "" then options.command
  else if ctx.applicationCommand ≠ "" then ctx.applicationCommand
  else workload.command

/-- The hosts of the job, the launcher first. -/
def hosts (ctx : Context) : List String :=
  ctx.hostname JobGroup.launcherName 0 ::
    (List.range ctx.workerReplicas.toNat).map (ctx.hostname JobGroup.workerName)

/-- Writes the list of hosts that the launcher reads. -/
def hostlist (ctx : Context) : String :=
  Shell.lines <|
    "# Write the hostlist for the launcher" ::
      (Shell.hereDocument "EOF" "EOF" hostFile (hosts ctx) ++ ["cat " ++ hostFile])

def jobGroups (ctx : Context) : List JobGroup :=
  [{ name := JobGroup.launcherName, replicas := 1 },
    { name := JobGroup.workerName, replicas := ctx.workerReplicas }]

def containers (workload : Workload) (options : Options) (ctx : Context) : List Container :=
  let pullSecret := ctx.application.bind Application.pullSecret
  let command : Command := { invocation := measured workload options ctx }
  let launcher : Container := {
    name := Container.applicationName
    jobGroup := JobGroup.launcherName
    image := options.image
    pullSecret
    script := { command := command.withLauncher options.launcher, pre := [hostlist ctx] } }
  let worker : Container := {
    name := workerContainer
    jobGroup := JobGroup.workerName
    image := options.image
    pullSecret
    script := { command := { invocation := ctx.settings.idleCommand } } }
  [launcher.withWorkingDir options.workdir, worker.withWorkingDir options.workdir]

def metric (workload : Workload) (options : Options) : Metric where
  kind := .workload
  jobGroups := jobGroups
  containers ctx := .ok (containers workload options ctx)

def plugin (workload : Workload) : Plugin Metric where
  descriptor := workload.descriptor
  State := Options
  fresh := fresh workload
  configure bag _ := (readOptions workload bag, none)
  validate := validate workload
  options := Options.write
  behaviour := metric workload

/-- Unstructured mesh hydrodynamics. -/
def pennant : Workload where
  descriptor := {
    identifier := "app-pennant"
    summary := "Unstructured mesh hydrodynamics for advanced architectures"
    family := .simulation
    image := some "ghcr.io/converged-computing/metric-pennant:latest"
    url := some "https://github.com/LLNL/pennant" }
  command := "pennant /opt/pennant/test/sedovsmall/sedovsmall.pnt"
  workdir := "/opt/pennant/test"

/-- Molecular dynamics. -/
def lammps : Workload where
  descriptor := {
    identifier := "app-lammps"
    summary := "LAMMPS molecular dynamic simulation"
    family := .simulation
    image := some "ghcr.io/converged-computing/metric-lammps:latest"
    url := some "https://www.lammps.org" }
  command := "lmp -v x 2 -v y 2 -v z 2 -in in.reaxc.hns -nocite"
  workdir := "/opt/lammps/examples/reaxff/HNS"

end Workload
end MeasuredJob
