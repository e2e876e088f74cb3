import MeasuredJob.Command
import MeasuredJob.Options.Basic

/-!
# Containers

A container as a plugin contributes it and as addons customize it, before its script is rendered.
-/

namespace MeasuredJob

/-- What a container runs: a measured command between fragments of shell text. -/
structure Script where
  /-- Names the persisted script.  Scripts without a name are numbered. -/
  name : Option String := none
  pre : List String := []
  command : Command
  post : List String := []
deriving DecidableEq, Repr, Inhabited

structure Resources where
  limits : Table OptionValue := ∅
  requests : Table OptionValue := ∅
deriving DecidableEq, Inhabited

structure Security where
  privileged : Bool := false
  capabilities : List String := []
deriving DecidableEq, Repr, Inhabited

namespace Security

/-- The capability to trace the processes of other containers. -/
def traceCapability : String := "SYS_PTRACE"

/-- Grant a capability, once. -/
def addCapability (security : Security) (capability : String) : Security :=
  if security.capabilities.contains capability then security
  else { security with capabilities := security.capabilities ++ [capability] }

theorem mem_addCapability (security : Security) (capability : String) :
    capability ∈ (security.addCapability capability).capabilities := by
  unfold addCapability
  split
  · rename_i h
    exact List.contains_iff_mem.mp h
  · simp

end Security

/-- The part of a declaration that contributed a container: the application, or a plugin by its
position in its list. -/
inductive Contributor where
  | application
  | metric (index : Nat)
  | addon (index : Nat)
deriving DecidableEq, Repr

structure Container where
  name : String
  jobGroup : String
  image : String
  workingDir : Option String := none
  pullSecret : Option String := none
  resources : Resources := {}
  security : Security := {}
  script : Script
  /-- The script is stored in the config map and mounted.  Otherwise it is passed to the shell. -/
  persistScript : Bool := true
  /-- Addons leave the container alone. -/
  standalone : Bool := false
  contributor : Option Contributor := none
deriving DecidableEq, Inhabited

/-- A text that is set only when it is not empty. -/
def nonEmpty? (s : String) : Option String :=
  if s = "" then none else some s

namespace Container

/-- What distinguishes a container from the others: its job group and its name in that group. -/
def key (container : Container) : String × String :=
  (container.jobGroup, container.name)

def applicationName : String := "app"

def withWorkingDir (container : Container) (dir : String) : Container :=
  { container with workingDir := nonEmpty? dir }

def addCapability (container : Container) (capability : String) : Container :=
  { container with security := container.security.addCapability capability }

def appendPre (container : Container) (fragment : String) : Container :=
  { container with
    script := { container.script with pre := container.script.pre ++ [fragment] } }

def wrapCommand (container : Container) (before after : String) : Container :=
  { container with
    script := { container.script with command := container.script.command.wrap before after } }

end Container
end MeasuredJob
