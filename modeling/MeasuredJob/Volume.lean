import MeasuredJob.Table
import MeasuredJob.Document.Decode

/-!
# Volumes
-/

namespace MeasuredJob

/-- Where the content of a volume comes from. -/
inductive VolumeSource where
  /-- Scratch space that lives as long as its pod. -/
  | emptyDir
  /-- A config map, with the path below the volume of each of its keys. -/
  | configMap (name : String) (items : Table String)
  | persistentVolumeClaim (claimName : String)
  | secret (secretName : String)
  | hostPath (path : String)
deriving DecidableEq

structure Volume where
  name : String
  source : VolumeSource
  /-- Where containers mount the volume. -/
  path : String
  readOnly : Bool := false
  /-- Containers mount the volume.  Otherwise it is only declared. -/
  mount : Bool := true
deriving DecidableEq

open Document (CaseForm Source)
open Document.Encode (field)
open Document.Decode (required fields? record?)

namespace VolumeSource

def encode (form : CaseForm) : VolumeSource → Document
  | .emptyDir => .text "emptyDir"
  | .configMap name items =>
    .case form "configMap" <| .record <|
      field "name" (.text name) ++ field "items" (Document.Encode.table .text items)
  | .persistentVolumeClaim claimName =>
    .case form "persistentVolumeClaim" (.record (field "claimName" (.text claimName)))
  | .secret secretName => .case form "secret" (.record (field "secretName" (.text secretName)))
  | .hostPath path => .case form "hostPath" (.record (field "path" (.text path)))

def decode (src : Source) (d : Document) : Option VolumeSource :=
  let text := Document.Decode.text src
  match Document.Decode.case? src d with
  | some ("emptyDir", none) => some .emptyDir
  | some ("configMap", some body) => do
    let fields ← fields? body
    let name ← required fields "name" text
    let items ← required fields "items" (Document.Decode.table Document.Decode.text src)
    pure (.configMap name items)
  | some ("persistentVolumeClaim", some body) =>
    (fields? body).bind fun fields => (required fields "claimName" text).map .persistentVolumeClaim
  | some ("secret", some body) =>
    (fields? body).bind fun fields => (required fields "secretName" text).map .secret
  | some ("hostPath", some body) =>
    (fields? body).bind fun fields => (required fields "path" text).map .hostPath
  | _ => none

end VolumeSource

namespace Volume

def encode (form : CaseForm) (volume : Volume) : Document :=
  .record <|
    field "name" (.text volume.name) ++
    field "source" (volume.source.encode form) ++
    field "path" (.text volume.path) ++
    field "readOnly" (.bool volume.readOnly) ++
    field "mount" (.bool volume.mount)

def decode (src : Source) (d : Document) : Option Volume := do
  let text := Document.Decode.text src
  let bool := Document.Decode.bool src
  let fields ← record? ["name", "source", "path", "readOnly", "mount"] src d
  let name ← required fields "name" text
  let source ← required fields "source" (VolumeSource.decode src)
  let path ← required fields "path" text
  let readOnly ← required fields "readOnly" bool
  let mount ← required fields "mount" bool
  pure { name, source, path, readOnly, mount }

end Volume
end MeasuredJob
