import MeasuredJob.Composition.Basic
import MeasuredJob.Container.Document

/-!
# Compositions as documents

Compositions are only written.  The cases of a choice that carry data are written as fields or as
tags, as the printed format wants them.
-/

namespace MeasuredJob

open Document (CaseForm)
open Document.Encode (field)

namespace Launch

def encode (form : CaseForm) : Launch → Document
  | .persisted key path =>
    .case form "persisted" (.record (field "key" (.text key) ++ field "path" (.text path)))
  | .inline => .text "inline"

end Launch

namespace ComposedContainer

def encode (form : CaseForm) (container : ComposedContainer) : Document :=
  .record <|
    field "spec" (container.spec.encode form) ++
    field "script" (.text container.script) ++
    field "launch" (container.launch.encode form) ++
    field "command" (.texts container.command)

end ComposedContainer

namespace ResolvedUse

def encode (use : ResolvedUse) : Document :=
  .record <|
    field "identifier" (.text use.identifier) ++
    field "kind" (.text use.kind.name) ++
    field "options" use.options.encode

end ResolvedUse

namespace Composition

def encode (form : CaseForm) (composition : Composition) : Document :=
  .record <|
    field "name" (.text composition.name) ++
    field "jobGroups" (.list (composition.jobGroups.map JobGroup.encode)) ++
    field "containers" (.list (composition.containers.map (ComposedContainer.encode form))) ++
    field "volumes" (.list (composition.volumes.map (Volume.encode form))) ++
    (match composition.entrypointVolume with
      | some volume => field "entrypointVolume" (volume.encode form)
      | none => []) ++
    field "resolved" (.list (composition.resolved.map ResolvedUse.encode))

end Composition

namespace ConfigMap

def encode (configMap : ConfigMap) : Document :=
  .record <|
    field "apiVersion" (.text "v1") ++
    field "kind" (.text "ConfigMap") ++
    field "data" (Document.Encode.table .text configMap.data) ++
    field "metadata" (.record <|
      field "labels" (Document.Encode.table .text configMap.labels) ++
      field "name" (.text configMap.name) ++
      field "namespace" (.text configMap.space))

end ConfigMap
end MeasuredJob
