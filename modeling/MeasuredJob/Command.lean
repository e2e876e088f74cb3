import MeasuredJob.Document.Decode
import MeasuredJob.Text.Blank

/-!
# Commands

The measured command of a container.  A launcher, such as an MPI runner, stays in front of
everything: wrapping a command puts tools around the invocation and never around the launcher,
because the launcher starts the tool on every host.
-/

namespace MeasuredJob

structure Command where
  launcher : Option String := none
  invocation : String
deriving DecidableEq, Repr, Inhabited

namespace Command

/-- The texts that are not empty, with one space between neighbours. -/
def joinWords (words : List String) : String :=
  " ".intercalate (words.filter (· ≠ ""))

/-- Run under a launcher.  A blank launcher is none. -/
def withLauncher (command : Command) (launcher : String) : Command :=
  { command with launcher := if Text.blank launcher then none else some launcher }

def wrap (command : Command) (before after : String) : Command :=
  { command with
    invocation := joinWords [Text.trim before, Text.trim command.invocation, Text.trim after] }

def render (command : Command) : String :=
  match command.launcher with
  | some launcher => Text.trim launcher ++ " " ++ command.invocation
  | none => command.invocation

@[simp] theorem launcher_wrap (command : Command) (before after : String) :
    (command.wrap before after).launcher = command.launcher := rfl

open Document.Encode (field optionalText)

def encode (command : Command) : Document :=
  .record (optionalText "launcher" command.launcher ++ field "invocation" (.text command.invocation))

def decode (src : Document.Source) (d : Document) : Option Command := do
  let text := Document.Decode.text src
  let fields ← Document.Decode.record? ["launcher", "invocation"] src d
  let launcher ← Document.Decode.optional fields "launcher" text
  let invocation ← Document.Decode.required fields "invocation" text
  pure { launcher, invocation }

end Command
end MeasuredJob
