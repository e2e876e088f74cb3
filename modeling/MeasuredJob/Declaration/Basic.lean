import MeasuredJob.Options.Basic

/-!
# Declarations

What the author of a job writes down: the application, the number of pods, and the plugins to use
in the order in which they apply.
-/

namespace MeasuredJob

/-- The program that monitors watch and whose command workloads run. -/
structure Application where
  image : String := ""
  /-- The command line of the process to run, by which monitors find it. -/
  command : String := ""
  /-- The shell line that starts the application, when it is not the command itself. -/
  entrypoint : Option String := none
  workingDir : Option String := none
  pullSecret : Option String := none
deriving DecidableEq, Repr, Inhabited

namespace Application

/-- The shell line that starts the application.  An empty one counts as absent. -/
def startLine (app : Application) : String :=
  match app.entrypoint with
  | some line => if line = "" then app.command else line
  | none => app.command

/-- There is an image to run and a command to run in it. -/
def isComplete (app : Application) : Bool :=
  app.image != "" && app.command != ""

end Application

structure PluginUse where
  /-- The identifier under which the plugin is registered. -/
  name : String
  bag : OptionBag := {}
deriving DecidableEq, Inhabited

structure Logging where
  /-- Keep every container alive after its script is done. -/
  interactive : Bool := false
deriving DecidableEq, Repr, Inhabited

structure Declaration where
  pods : UInt32 := 1
  application : Option Application := none
  logging : Logging := {}
  metrics : List PluginUse := []
  addons : List PluginUse := []
deriving DecidableEq, Inhabited

inductive Phase where
  | pending
  | composed
  | failed
deriving DecidableEq, Repr, Inhabited

namespace Phase

def name : Phase → String
  | .pending => "Pending"
  | .composed => "Composed"
  | .failed => "Failed"

def all : List Phase := [.pending, .composed, .failed]

end Phase

structure Status where
  phase : Phase := .pending
  message : Option String := none
deriving DecidableEq, Repr, Inhabited

/-- The part of a resource's metadata that a composition looks at. -/
structure Metadata where
  name : Option String := none
  space : Option String := none
  labels : Option (Table String) := none
deriving DecidableEq, Inhabited

/-- A declaration as it is stored: named, and with the status it has reached. -/
structure Resource where
  metadata : Metadata
  declaration : Declaration
  status : Option Status := none
deriving DecidableEq, Inhabited

namespace Resource

def named (name : String) (declaration : Declaration) : Resource :=
  { metadata := { name := some name }, declaration }

end Resource
end MeasuredJob
