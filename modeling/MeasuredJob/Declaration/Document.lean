import MeasuredJob.Declaration.Basic

/-!
# Declarations as documents

The written form of declarations.  What an author may leave out has a default, and an optional text
that is absent is left out when it is written.
-/

namespace MeasuredJob

open Document (Source)
open Document.Decode (defaulting optional latest required nullable record? fields?)
open Document.Encode (field flag optionalText)

namespace Application

def encode (app : Application) : Document :=
  .record <|
    field "image" (.text app.image) ++
    field "command" (.text app.command) ++
    optionalText "entrypoint" app.entrypoint ++
    optionalText "workingDir" app.workingDir ++
    optionalText "pullSecret" app.pullSecret

def decode (src : Source) (d : Document) : Option Application := do
  let text := Document.Decode.text src
  let fields ← record? ["image", "command", "entrypoint", "workingDir", "pullSecret"] src d
  let image ← defaulting fields "image" "" text
  let command ← defaulting fields "command" "" text
  let entrypoint ← optional fields "entrypoint" text
  let workingDir ← optional fields "workingDir" text
  let pullSecret ← optional fields "pullSecret" text
  pure { image, command, entrypoint, workingDir, pullSecret }

end Application

namespace PluginUse

/-- The options stand beside the name. -/
def encode (use : PluginUse) : Document :=
  .record (field "name" (.text use.name) ++ use.bag.encodeFields)

/-- How deep the lists and records in a field beside the name may be nested in a file. -/
def nestingLimit : Nat := 124

/-- The fields among which the options are.  In a file, all fields beside the name have to mean
something by their spelling alone, also those that nobody asks for: which of them are options is
only known after they are read. -/
def optionFields (src : Source) (fields : Document.Decode.Fields) :
    Option Document.Decode.Fields :=
  match src with
  | .message => some fields
  | .file => Document.settleFields? nestingLimit (fields.filter fun f => f.1 != "name")

def decode (src : Source) (d : Document) : Option PluginUse := do
  let fields ← fields? d
  let name ← required fields "name" (Document.Decode.text src)
  let bag ← OptionBag.decodeFields (← optionFields src fields)
  pure { name, bag }

end PluginUse

namespace Logging

def encode (logging : Logging) : Document :=
  .record (flag "interactive" logging.interactive)

def decode (src : Source) (d : Document) : Option Logging := do
  let fields ← record? ["interactive"] src d
  let interactive ← defaulting fields "interactive" false (Document.Decode.bool src)
  pure { interactive }

end Logging

namespace Declaration

def encode (decl : Declaration) : Document :=
  .record <|
    field "pods" (.int decl.pods.toNat) ++
    (match decl.application with
      | some app => field "application" app.encode
      | none => []) ++
    field "logging" decl.logging.encode ++
    field "metrics" (.list (decl.metrics.map PluginUse.encode)) ++
    field "addons" (.list (decl.addons.map PluginUse.encode))

def decode (src : Source) (d : Document) : Option Declaration := do
  let uses := Document.Decode.list PluginUse.decode src
  let fields ← record? ["pods", "application", "logging", "metrics", "addons"] src d
  let pods ← defaulting fields "pods" 1 (Document.Decode.uint32 src)
  let application ← optional fields "application" (Application.decode src)
  let logging ← defaulting fields "logging" {} (Logging.decode src)
  let metrics ← defaulting fields "metrics" [] uses
  let addons ← defaulting fields "addons" [] uses
  pure { pods, application, logging, metrics, addons }

end Declaration

namespace Phase

def encode (phase : Phase) : Document :=
  .text phase.name

def decode (src : Source) (d : Document) : Option Phase :=
  match Document.Decode.case? src d with
  | some (name, none) => all.find? fun p => p.name == name
  | _ => none

theorem decode_encode (src : Source) (p : Phase) : decode src p.encode = some p := by
  cases src <;> cases p <;> rfl

end Phase

namespace Status

def encode (status : Status) : Document :=
  .record (field "phase" status.phase.encode ++ optionalText "message" status.message)

def decode (src : Source) (d : Document) : Option Status := do
  let fields ← record? ["phase", "message"] src d
  let phase ← defaulting fields "phase" .pending (Phase.decode src)
  let message ← optional fields "message" (Document.Decode.text src)
  pure { phase, message }

end Status

namespace Metadata

def encode (metadata : Metadata) : Document :=
  .record <|
    (match metadata.labels with
      | some labels => field "labels" (Document.Encode.table .text labels)
      | none => []) ++
    optionalText "name" metadata.name ++
    optionalText "namespace" metadata.space

def decode (src : Source) (d : Document) : Option Metadata := do
  let text := Document.Decode.text src
  let fields ← fields? d
  let name ← latest fields "name" text
  let space ← latest fields "namespace" text
  let labels ← latest fields "labels" (Document.Decode.table Document.Decode.text src)
  pure { name, space, labels }

end Metadata

namespace Resource

def apiVersion : String := "flux-framework.org/v1alpha2"

def encode (resource : Resource) : Document :=
  .record <|
    field "apiVersion" (.text apiVersion) ++
    field "kind" (.text "MetricSet") ++
    field "metadata" resource.metadata.encode ++
    field "spec" resource.declaration.encode ++
    (match resource.status with
      | some status => field "status" status.encode
      | none => [])

/-- The status of a resource.  A resource given without field names has to give one or null. -/
def decodeStatus (src : Source) (d : Document) (fields : Document.Decode.Fields) :
    Option (Option Status) :=
  match d with
  | .list _ => required fields "status" (nullable (Status.decode src))
  | _ => optional fields "status" (Status.decode src)

/-- The version and kind that a document states are not looked at. -/
def decode (src : Source) (d : Document) : Option Resource := do
  let fields ← record? ["metadata", "spec", "status"] src d
  let metadata ← required fields "metadata" (Metadata.decode src)
  let declaration ← required fields "spec" (Declaration.decode src)
  let status ← decodeStatus src d fields
  pure { metadata, declaration, status }

end Resource
end MeasuredJob
