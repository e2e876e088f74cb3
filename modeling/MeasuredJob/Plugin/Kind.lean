import MeasuredJob.Text.Blank

/-!
# Kinds and families of plugins

A plugin is a metric or an addon, which decides what it may do in a composition.  Its family only
serves to find it.
-/

namespace MeasuredJob

inductive PluginKind where
  /-- Contributes containers of its own. -/
  | metric
  /-- Customizes containers that others contribute. -/
  | addon
deriving DecidableEq, Repr

namespace PluginKind

def name : PluginKind → String
  | .metric => "metric"
  | .addon => "addon"

/-- The name with its article, for messages. -/
def describe : PluginKind → String
  | .metric => "a metric"
  | .addon => "an addon"

end PluginKind

/-- How a metric relates to the job. -/
inductive MetricKind where
  /-- The metric is the work. -/
  | workload
  /-- The metric watches the process of the application from a container of its own. -/
  | monitor
deriving DecidableEq, Repr

namespace MetricKind

def name : MetricKind → String
  | .workload => "workload"
  | .monitor => "monitor"

end MetricKind

inductive Family where
  | simulation
  | performance
  | storage
  | network
  | application
deriving DecidableEq, Repr

namespace Family

def name : Family → String
  | .simulation => "simulation"
  | .performance => "performance"
  | .storage => "storage"
  | .network => "network"
  | .application => "application"

def all : List Family := [.simulation, .performance, .storage, .network, .application]

/-- The family of the given name, in any case of letters.  The error is the message for a name
that no family has. -/
def parse (s : String) : Except String Family :=
  match all.find? fun f => f.name == Text.lower s with
  | some f => .ok f
  | none => .error ("unknown plugin family '" ++ Text.lower s ++ "'")

end Family
end MeasuredJob
