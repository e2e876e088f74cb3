import MeasuredJob.Declaration.Basic
import MeasuredJob.Settings
import MeasuredJob.JobGroup

/-!
# What a plugin knows when it contributes

Plugins see the declared job and the settings.  They do not see each other.
-/

namespace MeasuredJob

structure Context where
  setName : String
  pods : UInt32
  application : Option Application
  settings : Settings
deriving DecidableEq

namespace Context

/-- The command of the application, or nothing to run. -/
def applicationCommand (ctx : Context) : String :=
  match ctx.application with
  | some app => app.command
  | none => ""

/-- The application, when there is an image to run and a command to run in it. -/
def completeApplication? (ctx : Context) : Option Application :=
  ctx.application.filter Application.isComplete

/-- One pod runs the launcher and the others are workers.  There is always a worker. -/
def workerReplicas (ctx : Context) : UInt32 :=
  if ctx.pods ≤ 1 then 1 else ctx.pods - 1

def hostname (ctx : Context) (group : String) (index : Nat) : String :=
  ctx.setName ++ "-" ++ group ++ "-0-" ++ index.repr ++ "." ++ ctx.setName

theorem toNat_workerReplicas (ctx : Context) :
    ctx.workerReplicas.toNat = max 1 (ctx.pods.toNat - 1) := by
  unfold workerReplicas
  split
  · rename_i h
    have : ctx.pods.toNat ≤ 1 := UInt32.le_iff_toNat_le.mp h
    rw [Nat.max_eq_left (by omega)]
    rfl
  · rename_i h
    have h' : ¬ctx.pods.toNat ≤ 1 := fun hle => h (UInt32.le_iff_toNat_le.mpr hle)
    have hle : (1 : UInt32) ≤ ctx.pods := UInt32.le_iff_toNat_le.mpr (by
      change 1 ≤ ctx.pods.toNat
      omega)
    rw [UInt32.toNat_sub_of_le _ _ hle]
    change ctx.pods.toNat - 1 = _
    omega

end Context
end MeasuredJob
