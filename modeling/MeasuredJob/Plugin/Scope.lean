import MeasuredJob.Options.Read
import MeasuredJob.Options.Write
import MeasuredJob.Container.Basic
import MeasuredJob.JobGroup

/-!
# The scope of an addon

An addon applies to one job group or to all of them, and wraps the command of one container or of
all of them.  `customizeScoped` is what most addons do: every container of a targeted group gets a
setup fragment, and the command of every targeted container among them is wrapped.
-/

namespace MeasuredJob

structure Scope where
  /-- The job group to customize.  Empty means every job group. -/
  target : String := ""
  /-- The container whose command is wrapped.  Empty means every container. -/
  containerTarget : String := ""
deriving DecidableEq, Repr, Inhabited

namespace Scope

def read (bag : OptionBag) : Scope :=
  { target := bag.textOr "target" ""
    containerTarget := bag.textOr "containerTarget" "" }

def write (scope : Scope) (bag : OptionBag) : OptionBag :=
  (bag.setText "target" scope.target).setText "containerTarget" scope.containerTarget

def targetsGroup (scope : Scope) (name : String) : Bool :=
  scope.target == "" || scope.target == name

def targetsContainer (scope : Scope) (name : String) : Bool :=
  scope.containerTarget == "" || scope.containerTarget == name

end Scope

/-- Containers after customization: each in the place of the container it was before. -/
abbrev Revision (containers : List Container) : Type :=
  { revised : List Container // revised.length = containers.length }

section

variable (scope : Scope) (setup : JobGroup → Option String) (wrap : Container → Container)

/-- Add the setup fragment of `group` to a container, then wrap its command if it is targeted. -/
def customizeContainer (group : JobGroup) (container : Container) : Container :=
  let prepared := match setup group with
    | some fragment => container.appendPre fragment
    | none => container
  if scope.targetsContainer prepared.name then wrap prepared else prepared

def customizeGroup (containers : List Container) (group : JobGroup) : List Container :=
  containers.map fun c =>
    if c.jobGroup = group.name ∧ c.standalone = false then
      customizeContainer scope setup wrap group c
    else c

def customizeScoped (groups : List JobGroup) (containers : List Container) : List Container :=
  (groups.filter fun g => scope.targetsGroup g.name).foldl (customizeGroup scope setup wrap)
    containers

theorem length_customizeScoped (groups : List JobGroup) (containers : List Container) :
    (customizeScoped scope setup wrap groups containers).length = containers.length := by
  unfold customizeScoped
  induction groups.filter fun g => scope.targetsGroup g.name generalizing containers with
  | nil => rfl
  | cons g gs ih =>
    rw [List.foldl_cons, ih, customizeGroup, List.length_map]

end

end MeasuredJob
