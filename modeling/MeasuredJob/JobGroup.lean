import MeasuredJob.Document.Decode

/-!
# Job groups

The pods of a job that run the same containers.
-/

namespace MeasuredJob

structure JobGroup where
  name : String
  replicas : UInt32
  /-- The containers of a pod see each other's processes. -/
  sharesProcesses : Bool := false
deriving DecidableEq, Repr, Inhabited

namespace JobGroup

/-- The group of metrics that do not ask for groups of their own. -/
def defaultName : String := "m"

def launcherName : String := "launcher"

def workerName : String := "worker"

open Document.Encode (field flag)

def encode (group : JobGroup) : Document :=
  .record <|
    field "name" (.text group.name) ++
    field "replicas" (.int group.replicas.toNat) ++
    flag "shareProcessNamespace" group.sharesProcesses

def decode (src : Document.Source) (d : Document) : Option JobGroup := do
  let fields ← Document.Decode.record? ["name", "replicas", "shareProcessNamespace"] src d
  let name ← Document.Decode.required fields "name" (Document.Decode.text src)
  let replicas ← Document.Decode.required fields "replicas" (Document.Decode.uint32 src)
  let sharesProcesses ← Document.Decode.defaulting fields "shareProcessNamespace" false
    (Document.Decode.bool src)
  pure { name, replicas, sharesProcesses }

end JobGroup
end MeasuredJob
