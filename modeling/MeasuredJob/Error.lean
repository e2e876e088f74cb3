import MeasuredJob.Marker
import MeasuredJob.Plugin.Kind

/-!
# Why a composition fails

Every cause names what it is about: the identifier of a plugin, a container, a job group or a
volume.  A composition that fails yields nothing but its cause.
-/

namespace MeasuredJob

/-- The part of a declaration's author, or of a plugin's author, that has to act on an error. -/
inductive ErrorCategory where
  /-- An unknown plugin, a plugin registered twice or a value that cannot be read. -/
  | configuration
  /-- A configured plugin lacks something that it needs. -/
  | validation
  /-- The parts that plugins contribute do not fit together. -/
  | composition
deriving DecidableEq, Repr

namespace ErrorCategory

def name : ErrorCategory → String
  | .configuration => "ConfigurationError"
  | .validation => "ValidationError"
  | .composition => "CompositionError"

end ErrorCategory

inductive Error where
  | unknownPlugin (identifier : String)
  | wrongKind (identifier : String) (expected actual : PluginKind)
  | duplicatePlugin (identifier : String)
  | invalidOption (plugin field reason : String)
  | validation (plugin field reason : String)
  /-- A plugin needs an application with an image and a command. -/
  | missingApplication (plugin : String)
  | noMetrics
  | missingName
  | unknownJobGroup (plugin jobGroup : String)
  | duplicateContainer (jobGroup container : String)
  | duplicateVolume (name : String)
  | duplicateScript (key : String)
  /-- An addon changed the identity of a container that another declaration contributed.  The
  container is named as it was before. -/
  | foreignContainerModified (plugin jobGroup container : String)
  | markerInFragment (container : String) (marker : Marker)
deriving DecidableEq, Repr

namespace Error

def message : Error → String
  | .unknownPlugin identifier => "unknown plugin '" ++ identifier ++ "'"
  | .wrongKind identifier expected actual =>
    "plugin '" ++ identifier ++ "' is " ++ actual.describe ++ ", but was declared as " ++
      expected.describe
  | .duplicatePlugin identifier => "plugin '" ++ identifier ++ "' is already registered"
  | .invalidOption plugin field reason =>
    "invalid option '" ++ field ++ "' for " ++ plugin ++ ": " ++ reason
  | .validation plugin _ reason => "validation failed for " ++ plugin ++ ": " ++ reason
  | .missingApplication plugin =>
    plugin ++ " requires an application (spec.application with image and command)"
  | .noMetrics => "metric set declares no metrics"
  | .missingName => "metric set has no name"
  | .unknownJobGroup plugin jobGroup =>
    plugin ++ " targets job group '" ++ jobGroup ++ "', which does not exist"
  | .duplicateContainer jobGroup container =>
    "duplicate container '" ++ container ++ "' in job group '" ++ jobGroup ++ "'"
  | .duplicateVolume name => "duplicate volume '" ++ name ++ "'"
  | .duplicateScript key => "duplicate entrypoint script '" ++ key ++ "'"
  | .foreignContainerModified plugin jobGroup container =>
    plugin ++ " modified container '" ++ container ++ "' in job group '" ++ jobGroup ++
      "', which it does not own"
  | .markerInFragment container marker =>
    "script for container '" ++ container ++ "' contains reserved marker '" ++ marker.text ++ "'"

def category : Error → ErrorCategory
  | .unknownPlugin .. => .configuration
  | .wrongKind .. => .configuration
  | .duplicatePlugin .. => .configuration
  | .invalidOption .. => .configuration
  | .noMetrics => .configuration
  | .missingName => .configuration
  | .validation .. => .validation
  | .missingApplication .. => .validation
  | .unknownJobGroup .. => .composition
  | .duplicateContainer .. => .composition
  | .duplicateVolume .. => .composition
  | .duplicateScript .. => .composition
  | .foreignContainerModified .. => .composition
  | .markerInFragment .. => .composition

def plugin? : Error → Option String
  | .unknownPlugin identifier => some identifier
  | .wrongKind identifier .. => some identifier
  | .duplicatePlugin identifier => some identifier
  | .invalidOption plugin .. => some plugin
  | .validation plugin .. => some plugin
  | .missingApplication plugin => some plugin
  | .unknownJobGroup plugin .. => some plugin
  | .foreignContainerModified plugin .. => some plugin
  | _ => none

def field? : Error → Option String
  | .invalidOption _ field _ => some field
  | .validation _ field _ => some field
  | _ => none

/-- Fail with the first fault that a check found, if it found one. -/
def check : Option Error → Except Error Unit
  | none => .ok ()
  | some e => .error e

@[simp] theorem check_eq_ok_iff {e : Option Error} : check e = .ok () ↔ e = none := by
  cases e <;> simp [check]

@[simp] theorem check_eq_error_iff {o : Option Error} {e : Error} :
    check o = .error e ↔ o = some e := by
  cases o <;> simp [check]

end Error
end MeasuredJob
