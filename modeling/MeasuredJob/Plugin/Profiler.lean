import MeasuredJob.Plugin.Basic
import MeasuredJob.Shell

/-!
# Profiling

An addon that runs the targeted commands under a profiler.  The profiler comes in a view, a tree of
software that one standalone container per targeted job group copies to a shared volume.  Every
other container of the group waits until the view is there.
-/

namespace MeasuredJob
namespace Profiler

def identifier : String := "perf-hpctoolkit"

def defaultImage : String := "ghcr.io/converged-computing/metric-hpctoolkit-view:latest"

def defaultMount : String := "/opt/share"

/-- The name of the container that copies the view, and of the volume that it copies it to. -/
def viewName : String := "hpctoolkit"

def descriptor : Descriptor := {
  identifier
  summary := "performance tools for measurement and analysis"
  family := .performance
  image := some defaultImage
  url := some "https://hpctoolkit.org" }

structure Options where
  scope : Scope := {}
  /-- What to measure, as arguments of the profiler. -/
  events : String := ""
  /-- Where the shared volume is mounted. -/
  mount : String := defaultMount
  image : String := defaultImage
  /-- The profiled containers run with all privileges. -/
  privileged : Bool := false
deriving DecidableEq, Repr, Inhabited

def readOptions (bag : OptionBag) : Options :=
  { scope := Scope.read bag
    events := bag.textOr "events" ""
    mount := bag.textOr "mount" defaultMount
    image := bag.textOr "image" defaultImage
    privileged := bag.flag "privileged" }

def Options.write (options : Options) : OptionBag :=
  OptionBag.empty
    |>.setText "events" options.events
    |>.setText "mount" options.mount
    |>.setText "image" options.image
    |>.setFlag "privileged" options.privileged
    |> options.scope.write

def validate (options : Options) : Option Error :=
  if Text.blank options.events then
    some (.validation identifier "events"
      "one or more 'events' for hpcrun are required (e.g. -e IO)")
  else if options.image = "" then
    some (.validation identifier "image" "a view 'image' is required")
  else if options.mount.toList.head? ≠ some '/' then
    some (.validation identifier "mount" ("'" ++ options.mount ++ "' is not an absolute path"))
  else none

def viewFragment (mount : String) : String :=
  let view := Shell.var "view"
  let root := Shell.var "viewroot"
  Shell.lines [
    Shell.echo ("Moving content from /opt/views to the shared volume at " ++ mount),
    "view=$(ls /opt/views/._view/)",
    "view=" ++ Shell.quoted ("/opt/views/._view/" ++ view),
    "viewroot=" ++ Shell.quoted mount,
    "mkdir -p " ++ root ++ "/view",
    "cp -R " ++ view ++ "/* " ++ root ++ "/view",
    "cp -R /opt/software " ++ root ++ "/",
    Shell.echo ("HPCToolkit view is ready under " ++ root)]

/-- Waits for the view and puts the profiler on the path. -/
def waitFragment (mount : String) : String :=
  let bin := Shell.var "viewbin"
  let software := Shell.var "software"
  Shell.lines [
    "# HPCToolkit: wait for the shared view, then put it on the path",
    "viewbase=" ++ Shell.quoted mount,
    "software=" ++ Shell.quoted (Shell.var "viewbase" ++ "/software"),
    "viewbin=" ++ Shell.quoted (Shell.var "viewbase" ++ "/view/bin"),
    "export PATH=" ++ bin ++ ":$PATH",
    Shell.echo ("Waiting for " ++ bin ++ "/hpcrun"),
    "until [ -x " ++ Shell.quoted (bin ++ "/hpcrun") ++ " ] && [ -d " ++ Shell.quoted software ++
      " ]; do",
    "    sleep 2",
    "done",
    "cp -R " ++ software ++ " /opt/software",
    "echo \"-1\" | tee /proc/sys/kernel/perf_event_paranoid"]

/-- The standalone container that copies the view. -/
def viewContainer (options : Options) (group : JobGroup) (ctx : Context) : Container :=
  { name := viewName
    jobGroup := group.name
    image := options.image
    script := {
      name := some (viewName ++ "-" ++ group.name)
      pre := [viewFragment options.mount]
      command := { invocation := ctx.settings.idleCommand } }
    standalone := true }

def profile (options : Options) (container : Container) : Container :=
  let wrapped := container.wrapCommand ("hpcrun " ++ Text.trim options.events) ""
  if options.privileged then
    { wrapped with security := { wrapped.security with privileged := true } }
  else wrapped

def addon (options : Options) : Addon where
  scope := options.scope
  containers group ctx := .ok [viewContainer options group ctx]
  volumes := [{ name := viewName, source := .emptyDir, path := options.mount }]
  setup _ := some (waitFragment options.mount)
  wrap := profile options

def plugin : Plugin Addon where
  descriptor := descriptor
  State := Options
  fresh := {}
  configure bag _ := (readOptions bag, none)
  validate := validate
  options := Options.write
  behaviour := addon

end Profiler
end MeasuredJob
