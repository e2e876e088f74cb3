import MeasuredJob.Plugin.Kind

/-!
# Arguments

The arguments of the program, from left to right: options of the program, a command, and the
options and the file of that command.  An option's value is looked at only when the next option or
file is accepted, or at the end of its command, so an argument that is not understood at all is
reported before a value that is wrong.
-/

namespace MeasuredJob
namespace CommandLine

inductive LogFormat where
  | text
  | json
deriving DecidableEq, Repr

namespace LogFormat

def name : LogFormat → String
  | .text => "text"
  | .json => "json"

/-- The format of the given name, in any case of letters.  The error is the message for a name
that no format has. -/
def parse (s : String) : Except String LogFormat :=
  let folded := Text.lower s
  if folded = "text" ∨ folded = "plain" then .ok .text
  else if folded = "json" then .ok .json
  else .error ("unknown log format '" ++ folded ++ "' (expected 'text' or 'json')")

end LogFormat

inductive OutputFormat where
  | json
  | yaml
  | scripts
  | configMap
deriving DecidableEq, Repr

namespace OutputFormat

def name : OutputFormat → String
  | .json => "json"
  | .yaml => "yaml"
  | .scripts => "scripts"
  | .configMap => "configmap"

def all : List OutputFormat := [.json, .yaml, .scripts, .configMap]

def ofName? (s : String) : Option OutputFormat :=
  all.find? fun f => f.name == s

end OutputFormat

inductive Task where
  | list (family : Option Family) (quiet : Bool)
  | compose (file : String) (output : OutputFormat) (space config : Option String)
deriving DecidableEq, Repr

structure Invocation where
  logFormat : LogFormat
  task : Task
deriving DecidableEq, Repr

inductive UsageError where
  | help
  | version
  /-- There is nothing to do, so help is shown. -/
  | nothingGiven
  | missingCommand
  | unknownCommand
  | unknownArgument
  | missingFile
  | repeated
  | unexpectedValue
  /-- A value is missing, empty where it must not be, or none of the possible ones. -/
  | invalidValue
  | malformedValue
deriving DecidableEq, Repr

/-! ## Options -/

inductive OptionName where
  | logFormat
  | family
  | quiet
  | output
  | space
  | config
  | help
  | version
deriving DecidableEq, Repr

namespace OptionName

def long : OptionName → String
  | .logFormat => "log-format"
  | .family => "family"
  | .quiet => "quiet"
  | .output => "output"
  | .space => "namespace"
  | .config => "config"
  | .help => "help"
  | .version => "version"

def short? : OptionName → Option Char
  | .quiet => some 'q'
  | .output => some 'o'
  | .space => some 'n'
  | .help => some 'h'
  | .version => some 'V'
  | _ => none

def takesValue : OptionName → Bool
  | .quiet => false
  | .help => false
  | .version => false
  | _ => true

end OptionName

/-- Where an argument stands: before the command, or after one of the commands. -/
inductive Level where
  | program
  | list
  | compose
deriving DecidableEq, Repr

namespace Level

def options : Level → List OptionName
  | .program => [.logFormat, .help, .version]
  | .list => [.family, .quiet, .logFormat, .help]
  | .compose => [.output, .space, .config, .logFormat, .help]

def takesFile : Level → Bool
  | .compose => true
  | _ => false

def ofCommand? (s : String) : Option Level :=
  if s = "list" then some .list
  else if s = "compose" then some .compose
  else none

end Level

/-! ## What has been read -/

/-- The options and the file that have been accepted. -/
structure Given where
  logFormat : Option LogFormat := none
  family : Option Family := none
  quiet : Bool := false
  output : Option OutputFormat := none
  space : Option String := none
  config : Option String := none
  file : Option String := none
deriving DecidableEq, Repr

namespace Given

/-- Fill a slot that may be filled once.  The slot is looked at before the value is. -/
def fill {α : Type} (slot : Option α) (value : Except UsageError α) : Except UsageError (Option α) :=
  if slot.isSome then .error .repeated else value.map some

def path (value : String) : Except UsageError String :=
  if value = "" then .error .invalidValue else .ok value

def accept (given : Given) (name : OptionName) (value : String) : Except UsageError Given :=
  match name with
  | .logFormat => do
    let format := (LogFormat.parse value).mapError fun _ => UsageError.malformedValue
    pure { given with logFormat := ← fill given.logFormat format }
  | .family => do
    let family := (Family.parse value).mapError fun _ => UsageError.malformedValue
    pure { given with family := ← fill given.family family }
  | .output => do
    let output := (OutputFormat.ofName? value).elim (.error .invalidValue) .ok
    pure { given with output := ← fill given.output output }
  | .space => do pure { given with space := ← fill given.space (.ok value) }
  | .config => do pure { given with config := ← fill given.config (path value) }
  | _ => .error .unexpectedValue

def raise (given : Given) (name : OptionName) : Except UsageError Given :=
  match name with
  | .quiet => if given.quiet then .error .repeated else .ok { given with quiet := true }
  | .help => .error .help
  | .version => .error .version
  | _ => .error .invalidValue

end Given

/-- What has been read but not looked at yet. -/
inductive Pending where
  | nothing
  | option (name : OptionName) (value : Option String)
  | file (path : String)
deriving DecidableEq, Repr

structure State where
  given : Given := {}
  pending : Pending := .nothing
  /-- A double dash has been read, so no argument after it is an option. -/
  literal : Bool := false
deriving DecidableEq, Repr

namespace State

def settle (s : State) : Except UsageError Given :=
  match s.pending with
  | .nothing => .ok s.given
  | .option _ none => .error .invalidValue
  | .option name (some value) => s.given.accept name value
  | .file path => do pure { s.given with file := some (← Given.path path) }

/-- The option that waits for its value. -/
def awaited? (s : State) : Option OptionName :=
  match s.pending with
  | .option name none => if s.literal then none else some name
  | _ => none

def hasFile (s : State) : Bool :=
  match s.pending with
  | .file _ => true
  | _ => s.given.file.isSome

/-- An option that takes a value, with the value if it is attached. -/
def option (s : State) (name : OptionName) (attached : Option String) : Except UsageError State := do
  let given ← s.settle
  match attached with
  | none => pure { s with given, pending := .option name none }
  | some value => pure { s with given := ← given.accept name value, pending := .nothing }

def flag (s : State) (name : OptionName) : Except UsageError State := do
  pure { s with given := ← (← s.settle).raise name, pending := .nothing }

/-- A long option, without its dashes. -/
def long (level : Level) (s : State) (body : List Char) : Except UsageError State :=
  let name := String.ofList (body.takeWhile (· ≠ '='))
  let value := match body.dropWhile (· ≠ '=') with
    | [] => none
    | _ :: rest => some (String.ofList rest)
  match level.options.find? fun o => o.long == name with
  | none => .error .unknownArgument
  | some o =>
    if o.takesValue then s.option o value
    else if value.isSome then .error .unexpectedValue
    else s.flag o

/-- The value after a short option in the same argument. -/
def attached? : List Char → Option String
  | [] => none
  | '=' :: cs => some (String.ofList cs)
  | cs => some (String.ofList cs)

/-- Short options in one argument, without the dash.  The first that takes a value takes the rest
of the argument. -/
def shorts (level : Level) : List Char → State → Except UsageError State
  | [], s => .ok s
  | c :: cs, s =>
    match level.options.find? fun o => o.short? == some c with
    | none => .error .unknownArgument
    | some o => if o.takesValue then s.option o (attached? cs) else (s.flag o).bind (shorts level cs)

/-- The error for a word that nothing takes. -/
def unexpected (level : Level) (s : State) (word : String) : UsageError :=
  match level with
  | .program =>
    if s.literal ∧ (word = "help" ∨ (Level.ofCommand? word).isSome) then .unknownArgument
    else .unknownCommand
  | _ => .unknownArgument

/-- An argument that is no option: the value that is awaited, or the file. -/
def word (level : Level) (s : State) (argument : String) : Except UsageError State :=
  match s.awaited? with
  | some name => .ok { s with pending := .option name (some argument) }
  | none =>
    if level.takesFile && !s.hasFile then do
      pure { s with given := ← s.settle, pending := .file argument }
    else .error (s.unexpected level argument)

def step (level : Level) (s : State) (argument : String) : Except UsageError State :=
  if s.literal then s.word level argument
  else match argument.toList with
    | ['-'] => s.word level argument
    | ['-', '-'] => .ok { s with literal := true }
    | '-' :: '-' :: body => s.long level body
    | '-' :: body => shorts level body s
    | _ => s.word level argument

end State

/-! ## Whole command lines -/

def readCommand (level : Level) (arguments : List String) : Except UsageError (Task × Given) := do
  let state ← arguments.foldlM (State.step level) {}
  let given ← state.settle
  match level, given.file with
  | .compose, some file =>
    pure (.compose file (given.output.getD .json) given.space given.config, given)
  | .compose, none => throw .missingFile
  | _, _ => pure (.list given.family given.quiet, given)

/-- The arguments after the word `help`, each of which has to name a command.  Only the first
command has commands below it. -/
def readHelp : List String → UsageError
  | [] => .help
  | [word] => if word = "help" ∨ (Level.ofCommand? word).isSome then .help else .unknownCommand
  | _ => .unknownCommand

def readProgram (s : State) : List String → Except UsageError Invocation
  | [] => do
    let given ← s.settle
    if given.logFormat.isSome then throw .missingCommand else throw .nothingGiven
  | argument :: rest =>
    if s.literal || s.awaited?.isSome then (s.step .program argument).bind (readProgram · rest)
    else if argument = "help" then .error (readHelp rest)
    else match Level.ofCommand? argument with
      | some level => do
        let (task, below) ← readCommand level rest
        let above ← s.settle
        pure { logFormat := (below.logFormat.or above.logFormat).getD .text, task }
      | none => (s.step .program argument).bind (readProgram · rest)

def parse (arguments : List String) : Except UsageError Invocation :=
  readProgram {} arguments

end CommandLine
end MeasuredJob
