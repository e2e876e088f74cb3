import MeasuredJob.Container.Basic
import MeasuredJob.JobGroup
import MeasuredJob.Settings
import MeasuredJob.Error

/-!
# Rendering scripts

A rendered script is a header, the fragments before the measured command, the measured command
between its markers, the fragments after it and, in interactive mode, a tail that keeps the
container alive.  Markers are written here and nowhere else: a fragment or command that contains
one is refused.
-/

namespace MeasuredJob
namespace Script

/-! ## Pieces -/

/-- A text without trailing white space, as a line of its own. -/
def line (text : String) : String :=
  Text.trimEnd text ++ "\n"

/-- A fragment below an empty line.  Line breaks around it are dropped, and so is a blank one. -/
def fragmentText (fragment : String) : String :=
  let body := Text.trimChar '\n' fragment
  if Text.blank body then "" else "\n" ++ line body

def fragmentTexts (fragments : List String) : String :=
  String.join (fragments.map fragmentText)

def markerLine (marker : Marker) : String :=
  "echo \"" ++ marker.text ++ "\"\n"

def replicaText (replicas : UInt32) : String :=
  replicas.toNat.repr ++ (if replicas = 1 then " replica" else " replicas")

/-- The comment block, and the number of the replica that runs the script. -/
def header (setName shell : String) (container : Container) (group : JobGroup) : String :=
  "#!" ++ shell ++ "\n" ++
    "# MetricSet: " ++ setName ++ "\n" ++
    "# Job group: " ++ group.name ++ " (" ++ replicaText group.replicas ++ ")\n" ++
    "# Container: " ++ container.name ++ "\n\n" ++
    "replica_index=\"$\x7bJOB_COMPLETION_INDEX:-0\x7d\"\n"

def interactiveTail (idleCommand : String) : String :=
  "\n" ++ "echo \"Interactive mode, keeping container alive\"\n" ++ line idleCommand

/-! ## Regions -/

def setupRegion (setName shell : String) (container : Container) (group : JobGroup) : String :=
  header setName shell container group ++ fragmentTexts container.script.pre ++ "\n"

def measuredRegion (script : Script) : String :=
  line script.command.render

/-- The texts of a script that come from plugins, in the order in which they are written. -/
def contributedTexts (script : Script) : List String :=
  script.pre ++ [script.command.render] ++ script.post

/-- The first marker in the first contributed text that contains one. -/
def foundMarker? (script : Script) : Option Marker :=
  script.contributedTexts.findSome? Marker.find?

/-- The whole text of the script of a container that runs in `group`. -/
def text (setName : String) (settings : Settings) (interactive : Bool) (container : Container)
    (group : JobGroup) : String :=
  setupRegion setName settings.shell container group ++
    markerLine .separator ++
    markerLine .collectionStart ++
    measuredRegion container.script ++
    markerLine .collectionEnd ++
    fragmentTexts container.script.post ++
    (if interactive then interactiveTail settings.idleCommand else "")

/-- The script of a container, unless a contributed text contains a marker. -/
def render (setName : String) (settings : Settings) (interactive : Bool) (container : Container)
    (group : JobGroup) : Except Error String :=
  match container.script.foundMarker? with
  | some marker => .error (.markerInFragment container.name marker)
  | none => .ok (text setName settings interactive container group)

end Script
end MeasuredJob
