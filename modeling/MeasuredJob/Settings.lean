import MeasuredJob.Document.Decode
import MeasuredJob.Text.Blank

/-!
# Settings of a composition

What holds for every container of every composition: the shell that runs the scripts, the volume
that carries them, where it is mounted, and the command of a container that has nothing to do.
-/

namespace MeasuredJob

structure Settings where
  /-- The directory at which persisted scripts are mounted. -/
  scriptRoot : String := "/metrics_operator"
  entrypointVolume : String := "entrypoints"
  /-- The command that keeps a container alive. -/
  idleCommand : String := "sleep infinity"
  shell : String := "/bin/bash"
deriving DecidableEq, Repr, Inhabited

namespace Settings

def scriptPath (settings : Settings) (key : String) : String :=
  Text.trimEndChar '/' settings.scriptRoot ++ "/" ++ key ++ ".sh"

def encode (settings : Settings) : Document :=
  .record [
    ("scriptRoot", .text settings.scriptRoot),
    ("entrypointVolume", .text settings.entrypointVolume),
    ("idleCommand", .text settings.idleCommand),
    ("shell", .text settings.shell)]

/-- Every setting that is left out has its default. -/
def decode (src : Document.Source) (d : Document) : Option Settings := do
  let standard : Settings := {}
  let fields ← Document.Decode.record?
    ["scriptRoot", "entrypointVolume", "idleCommand", "shell"] src d
  let text := fun name default =>
    Document.Decode.defaulting fields name default (Document.Decode.text src)
  let scriptRoot ← text "scriptRoot" standard.scriptRoot
  let entrypointVolume ← text "entrypointVolume" standard.entrypointVolume
  let idleCommand ← text "idleCommand" standard.idleCommand
  let shell ← text "shell" standard.shell
  pure { scriptRoot, entrypointVolume, idleCommand, shell }

end Settings
end MeasuredJob
