import MeasuredJob.Plugin.Basic

/-!
# Companion containers

An addon that runs one more program, with an image of its own, beside every targeted job group.
-/

namespace MeasuredJob
namespace Companion

def identifier : String := "application"

def descriptor : Descriptor := {
  identifier
  summary := "basic application (container) type"
  family := .application }

structure Options where
  scope : Scope := {}
  name : String := Container.applicationName
  image : String := ""
  command : String := ""
  /-- The shell line that starts the program, when it is not the command itself. -/
  entrypoint : String := ""
  workingDir : String := ""
  pullSecret : String := ""
  privileged : Bool := false
  resources : Resources := {}
deriving DecidableEq, Inhabited

def readOptions (bag : OptionBag) : Options :=
  { scope := Scope.read bag
    name := bag.textOr "name" Container.applicationName
    image := bag.textOr "image" ""
    command := bag.textOr "command" ""
    entrypoint := bag.textOr "entrypoint" ""
    workingDir := bag.textOr "workingDir" ""
    pullSecret := bag.textOr "pullSecret" ""
    privileged := bag.flag "privileged"
    resources := {
      limits := bag.valueMap "resourceLimits"
      requests := bag.valueMap "resourceRequests" } }

def Options.write (options : Options) : OptionBag :=
  OptionBag.empty
    |>.setText "name" options.name
    |>.setText "image" options.image
    |>.setText "command" options.command
    |>.setText "entrypoint" options.entrypoint
    |>.setText "workingDir" options.workingDir
    |>.setText "pullSecret" options.pullSecret
    |>.setFlag "privileged" options.privileged
    |>.exportMap "resourceLimits" options.resources.limits
    |>.exportMap "resourceRequests" options.resources.requests
    |> options.scope.write

def validate (options : Options) : Option Error :=
  if options.image = "" then
    some (.validation identifier "image" "a container 'image' is required")
  else if options.command = "" then
    some (.validation identifier "command" "a container 'command' is required")
  else if options.name = "" then
    some (.validation identifier "name" "container 'name' must not be empty")
  else none

def container (options : Options) (group : JobGroup) : Container :=
  { name := options.name
    jobGroup := group.name
    image := options.image
    workingDir := nonEmpty? options.workingDir
    pullSecret := nonEmpty? options.pullSecret
    resources := options.resources
    security := { privileged := options.privileged }
    script := {
      name := some (options.name ++ "-" ++ group.name)
      command := {
        invocation := if options.entrypoint = "" then options.command else options.entrypoint } } }

def addon (options : Options) : Addon where
  scope := options.scope
  containers group _ := .ok [container options group]

def plugin : Plugin Addon where
  descriptor := descriptor
  State := Options
  fresh := {}
  configure bag _ := (readOptions bag, none)
  validate := validate
  options := Options.write
  behaviour := addon

end Companion
end MeasuredJob
