import MeasuredJob.CommandLine.Arguments
import MeasuredJob.CommandLine.TextTable
import MeasuredJob.Composition.Compose
import MeasuredJob.Composition.Document
import MeasuredJob.Declaration.Document
import MeasuredJob.Document.Flow.Parser
import MeasuredJob.Document.Printer
import MeasuredJob.Plugin.Builtin

/-!
# Commands

What the commands of the program print, as functions of the registry and of what files hold.
-/

namespace MeasuredJob
namespace CommandLine

inductive Failure where
  | unreadable (path : String)
  /-- A file is malformed, or does not hold what it should hold. -/
  | document
  | compose (error : Error)
  | nothingPersisted (name : String)
deriving DecidableEq, Repr

namespace Failure

def message : Failure → String
  | .unreadable path => "failed to read " ++ path
  | .document => "malformed document"
  | .compose error => error.category.name ++ ": " ++ error.message
  | .nothingPersisted name => "no entrypoint scripts are persisted for '" ++ name ++ "'"

end Failure

inductive Output where
  | text (s : String)
  | json (d : Document)
  | yaml (d : Document)

namespace Output

/-- The printed text.  A YAML document is written in flow style. -/
def print : Output → String
  | .text s => s
  | .json d => d.pretty ++ "\n"
  | .yaml d => d.pretty ++ "\n"

end Output

/-! ## Listing plugins -/

/-- The identifiers, one a line. -/
def listQuietly (registry : Registry) (family : Option Family) : String :=
  String.join ((registry.list family).map fun identifier => identifier ++ "\n")

def tableRow (plugin : AnyPlugin) : List String :=
  let descriptor := plugin.descriptor
  [descriptor.identifier, plugin.kind.name, descriptor.family.name, Text.trim descriptor.summary]

def listTable (registry : Registry) (family : Option Family) : String :=
  TextTable.format ["NAME", "KIND", "FAMILY", "SUMMARY"] ((registry.ofFamily family).map tableRow)

/-! ## Composing files -/

def readAs {α : Type} (read : String → Option String)
    (decode : Document.Source → Document → Option α) (path : String) : Except Failure α :=
  match read path with
  | none => .error (.unreadable path)
  | some content =>
    match (Document.parseFile? content).bind (decode .file) with
    | none => .error .document
    | some value => .ok value

/-- The scripts of all containers, each below a heading. -/
def scriptListing (composition : Composition) : String :=
  String.join <| composition.containers.map fun c =>
    let location := match c.launch with
      | .persisted _ path => path
      | .inline => "inline"
    "### " ++ c.spec.jobGroup ++ "/" ++ c.spec.name ++ " (" ++ location ++ ")\n" ++ c.script ++ "\n"

/-- The space of the config map: the one that is asked for, else that of the resource. -/
def targetSpace (space : Option String) (resource : Resource) : String :=
  (space.or resource.metadata.space).getD "default"

def present (output : OutputFormat) (space : String) (composition : Composition) :
    Except Failure Output :=
  match output with
  | .json => .ok (.json (composition.encode .field))
  | .yaml => .ok (.yaml (composition.encode .tag))
  | .scripts => .ok (.text (scriptListing composition))
  | .configMap =>
    match composition.configMap? space with
    | some configMap => .ok (.yaml configMap.encode)
    | none => .error (.nothingPersisted composition.name)

/-- Compose the resource in a file.  The resource is read before the settings. -/
def composeFile (registry : Registry) (read : String → Option String) (file : String)
    (output : OutputFormat) (space config : Option String) : Except Failure Output := do
  let resource ← readAs read Resource.decode file
  let settings ← match config with
    | none => pure {}
    | some path => readAs read Settings.decode path
  let composition ← (resource.compose registry settings).mapError .compose
  present output (targetSpace space resource) composition

def run (registry : Registry) (read : String → Option String) : Task → Except Failure Output
  | .list family quiet =>
    .ok (.text (if quiet then listQuietly registry family else listTable registry family))
  | .compose file output space config => composeFile registry read file output space config

end CommandLine
end MeasuredJob
