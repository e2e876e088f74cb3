import MeasuredJob.Container.Basic

/-!
# Containers as documents
-/

namespace MeasuredJob

open Document (CaseForm Source)
open Document.Decode (defaulting optional required record?)
open Document.Encode (field flag optionalText nonEmptyTable)

namespace Script

def encode (script : Script) : Document :=
  .record <|
    optionalText "name" script.name ++
    Document.Encode.texts "pre" script.pre ++
    field "command" script.command.encode ++
    Document.Encode.texts "post" script.post

def decode (src : Source) (d : Document) : Option Script := do
  let text := Document.Decode.text src
  let texts := Document.Decode.list Document.Decode.text src
  let fields ← record? ["name", "pre", "command", "post"] src d
  let name ← optional fields "name" text
  let pre ← defaulting fields "pre" [] texts
  let command ← required fields "command" (Command.decode src)
  let post ← defaulting fields "post" [] texts
  pure { name, pre, command, post }

end Script

namespace Resources

def encode (resources : Resources) : Document :=
  .record <|
    nonEmptyTable "limits" OptionValue.encode resources.limits ++
    nonEmptyTable "requests" OptionValue.encode resources.requests

def decode (src : Source) (d : Document) : Option Resources := do
  let values := Document.Decode.table (fun _ => OptionValue.decode) src
  let fields ← record? ["limits", "requests"] src d
  let limits ← defaulting fields "limits" ∅ values
  let requests ← defaulting fields "requests" ∅ values
  pure { limits, requests }

end Resources

namespace Security

def encode (security : Security) : Document :=
  .record <|
    flag "privileged" security.privileged ++
    Document.Encode.texts "capabilities" security.capabilities

def decode (src : Source) (d : Document) : Option Security := do
  let fields ← record? ["privileged", "capabilities"] src d
  let privileged ← defaulting fields "privileged" false (Document.Decode.bool src)
  let capabilities ← defaulting fields "capabilities" []
    (Document.Decode.list Document.Decode.text src)
  pure { privileged, capabilities }

end Security

namespace Contributor

/-- Positions are numbers of 64 bits. -/
def indexBound : Nat := UInt64.size

def encode (form : CaseForm) : Contributor → Document
  | .application => .text "application"
  | .metric index => .case form "metric" (.int index)
  | .addon index => .case form "addon" (.int index)

def decode (src : Source) (d : Document) : Option Contributor :=
  let index := Document.Decode.nat indexBound src
  match Document.Decode.case? src d with
  | some ("application", none) => some .application
  | some ("metric", some body) => (index body).map .metric
  | some ("addon", some body) => (index body).map .addon
  | _ => none

end Contributor

namespace Container

def encode (form : CaseForm) (container : Container) : Document :=
  .record <|
    field "name" (.text container.name) ++
    field "jobGroup" (.text container.jobGroup) ++
    field "image" (.text container.image) ++
    optionalText "workingDir" container.workingDir ++
    optionalText "pullSecret" container.pullSecret ++
    field "resources" container.resources.encode ++
    field "security" container.security.encode ++
    field "script" container.script.encode ++
    field "persistScript" (.bool container.persistScript) ++
    flag "standalone" container.standalone ++
    (match container.contributor with
      | some contributor => field "contributor" (contributor.encode form)
      | none => [])

def decode (src : Source) (d : Document) : Option Container := do
  let text := Document.Decode.text src
  let bool := Document.Decode.bool src
  let fields ← record?
    ["name", "jobGroup", "image", "workingDir", "pullSecret", "resources", "security", "script",
      "persistScript", "standalone", "contributor"] src d
  let name ← required fields "name" text
  let jobGroup ← required fields "jobGroup" text
  let image ← required fields "image" text
  let workingDir ← optional fields "workingDir" text
  let pullSecret ← optional fields "pullSecret" text
  let resources ← defaulting fields "resources" {} (Resources.decode src)
  let security ← defaulting fields "security" {} (Security.decode src)
  let script ← required fields "script" (Script.decode src)
  let persistScript ← required fields "persistScript" bool
  let standalone ← defaulting fields "standalone" false bool
  let contributor ← optional fields "contributor" (Contributor.decode src)
  pure {
    name, jobGroup, image, workingDir, pullSecret, resources, security, script, persistScript,
    standalone, contributor }

end Container
end MeasuredJob
