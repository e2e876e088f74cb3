import MeasuredJob.CommandLine.Run

/-!
# The program

Reads arguments and files, and prints.  Everything else is in `MeasuredJob.CommandLine`.
-/

namespace MeasuredJob
namespace CommandLine

def usage : String :=
  "usage: metricset [--log-format text|json] list [--family FAMILY] [--quiet]\n" ++
  "       metricset [--log-format text|json] compose FILE [--output json|yaml|scripts|configmap]\n" ++
  "                 [--namespace NAMESPACE] [--config FILE]"

def contentOf (path : String) : IO (Option String) := do
  try
    return some (← IO.FS.readFile path)
  catch _ =>
    return none

/-- The files that a task reads, with their contents. -/
def contentsFor : Task → IO (List (String × Option String))
  | .list .. => return []
  | .compose file _ _ config =>
    (file :: config.toList).mapM fun path => return (path, ← contentOf path)

/-- Run the program.  The exit code tells bad arguments from a failing command. -/
def program (arguments : List String) : IO UInt32 := do
  match parse arguments with
  | .error .help =>
    IO.println usage
    return 0
  | .error _ =>
    IO.eprintln usage
    return 2
  | .ok invocation =>
    let contents ← contentsFor invocation.task
    let read := fun path => (contents.lookup path).join
    match run Builtin.registry read invocation.task with
    | .ok output =>
      IO.print output.print
      return 0
    | .error failure =>
      IO.eprintln ("error: " ++ failure.message)
      return 1

end CommandLine
end MeasuredJob

def main (arguments : List String) : IO UInt32 :=
  MeasuredJob.CommandLine.program arguments
