import MeasuredJob.Plugin.Basic
import MeasuredJob.Shell

/-!
# Sampling a process

A monitor that finds the process of the application by its command line and samples its statistics
until it exits.  The command line becomes a pattern that matches itself and nothing else, written
as one word of shell text.
-/

namespace MeasuredJob
namespace Sampler

def identifier : String := "perf-sysstat"

def defaultImage : String := "ghcr.io/converged-computing/metric-sysstat:latest"

/-- The file that holds the sampling loop. -/
def loopFile : String := "/tmp/pidstat-loop.sh"

def descriptor : Descriptor := {
  identifier
  summary := "statistics for Linux tasks (processes) : I/O, CPU, memory, etc."
  family := .performance
  image := some defaultImage
  url := some "https://github.com/sysstat/sysstat" }

structure Options where
  /-- Seconds between two samples. -/
  rate : Int32 := 10
  /-- The number of samples to take.  Zero means no bound. -/
  completions : Int32 := 0
  threads : Bool := false
  image : String := defaultImage
deriving DecidableEq, Inhabited

/-- Take the options in order.  When one cannot be read, those before it are taken already. -/
def configure (bag : OptionBag) (options : Options) : Options × Option Error :=
  match bag.intOr identifier "rate" 10 with
  | .error e => (options, some e)
  | .ok rate =>
    match bag.intOr identifier "completions" 0 with
    | .error e => ({ options with rate }, some e)
    | .ok completions =>
      ({ rate, completions
         threads := bag.flag "threads"
         image := bag.textOr "image" defaultImage }, none)

def validate (options : Options) : Option Error :=
  if options.rate ≤ 0 then
    some (.validation identifier "rate"
      ("rate must be a positive number of seconds, got " ++ Text.ofInt32 options.rate))
  else if options.completions < 0 then
    some (.validation identifier "completions" "completions must not be negative")
  else none

def Options.write (options : Options) : OptionBag :=
  OptionBag.empty
    |>.setInt "rate" options.rate
    |>.setInt "completions" options.completions
    |>.setFlag "threads" options.threads
    |>.setText "image" options.image

/-! ## Finding the process -/

/-- The characters with a meaning in an extended regular expression. -/
def isMeta (c : Char) : Bool :=
  ['\\', '.', '^', '$', '*', '+', '?', '(', ')', '[', ']', '\x7b', '\x7d', '|'].contains c

/-- A character of the pattern, inside single quotes.  A single quote closes the quotes, stands for
itself behind a backslash and opens them again. -/
def patternChar (c : Char) : List Char :=
  if c = '\'' then ['\'', '\\', '\'', '\'']
  else if isMeta c then ['\\', c]
  else [c]

/-- A shell word with a regular expression that matches exactly the given command line. -/
def pattern (command : String) : String :=
  String.ofList
    (['\''] ++ (Text.strip Text.isBlank command.toList).flatMap patternChar ++ ['\''])

/-- Waits until the process runs and leaves its number in `pid`. -/
def waitFragment (command : String) : String :=
  let find := "pid=$(pgrep -n -x -f " ++ pattern command ++ ")"
  Shell.lines [
    Shell.echo "Waiting for application PID...",
    find,
    "while [ -z " ++ Shell.quoted (Shell.var "pid") ++ " ]; do",
    "    sleep 1",
    "    " ++ find,
    "done",
    Shell.echo ("Application PID is " ++ Shell.var "pid")]

/-! ## The sampling loop -/

/-- The reports of one sample: the label that is printed, and the flag of the sampling tool. -/
def reports : List (String × String) := [
  ("CPU STATISTICS", "-u"),
  ("KERNEL STATISTICS", "-d"),
  ("POLICY", "-R"),
  ("PAGEFAULTS and MEMORY", "-r"),
  ("STACK UTILIZATION", "-s"),
  ("TASK SWITCHING", "-w")]

def reportLines (threads : Bool) (report : String × String) : List String := [
  "    " ++ Shell.echo (report.1 ++ " " ++ Shell.var "i"),
  "    pidstat -p " ++ Shell.var "pid" ++ " " ++ report.2 ++ " -h" ++ (if threads then " -t" else "")]

/-- The lines that end the loop after the wanted number of samples. -/
def boundLines (completions : Int32) : List String :=
  if 0 < completions then [
    "    if [ " ++ Shell.var "i" ++ " -ge " ++ Text.ofInt32 completions ++ " ]; then",
    "        break",
    "    fi"]
  else []

def loopLines (options : Options) : List String :=
  ["i=0", "while kill -0 " ++ Shell.var "pid" ++ " 2>/dev/null; do"] ++
    reports.flatMap (reportLines options.threads) ++
    ["    i=$((i+1))"] ++
    boundLines options.completions ++
    ["    sleep " ++ Text.ofInt32 options.rate, "done"]

/-- Writes the loop to its file, which takes the number of the process as its argument. -/
def loopFragment (options : Options) : String :=
  Shell.lines (Shell.hereDocument "'EOF'" "EOF" loopFile ("pid=\"$1\"" :: loopLines options))

/-! ## The plugin -/

def containers (options : Options) (ctx : Context) : Except Error (List Container) :=
  match ctx.application with
  | none => .error (.missingApplication identifier)
  | some app =>
    let container : Container := {
      name := identifier
      jobGroup := JobGroup.defaultName
      image := options.image
      script := {
        command := {
          invocation := ctx.settings.shell ++ " " ++ loopFile ++ " " ++ Shell.var "pid" }
        pre := [waitFragment app.command, loopFragment options] } }
    .ok [container.addCapability Security.traceCapability]

def metric (options : Options) : Metric where
  kind := .monitor
  containers := containers options

def plugin : Plugin Metric where
  descriptor := descriptor
  State := Options
  fresh := {}
  configure := configure
  validate := validate
  options := Options.write
  behaviour := metric

end Sampler
end MeasuredJob
