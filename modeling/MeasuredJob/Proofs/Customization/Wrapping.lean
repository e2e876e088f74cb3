import MeasuredJob.Plugin.Builtin
import MeasuredJob.Proofs.Customization.Scoped

/-!
# Addons that only wrap

Most addons customize by their scope and do no more to a container than put words around its
command, once.  The profiler may also give it all privileges.  A `Wrapper` says what such an addon
does with the containers that it wraps.  The words may depend on the container, as the addon finds
it.
-/

namespace MeasuredJob

/-! ## Additions to a container -/

/-- A text with words before and after it. -/
def wrapText (text : String) (words : String × String) : String :=
  Command.joinWords [Text.trim words.1, Text.trim text, Text.trim words.2]

/-- A container with more fragments before its command, words around its command from the inside
to the outside, and perhaps all privileges.  Nothing else in it changes. -/
def Container.customized (container : Container) (fragments : List String)
    (words : List (String × String)) (privileged : Bool) : Container :=
  { container with
    script := { container.script with
      pre := container.script.pre ++ fragments
      command := { container.script.command with
        invocation := words.foldl wrapText container.script.command.invocation } }
    security := { container.security with
      privileged := container.security.privileged || privileged } }

theorem Container.customized_nil (container : Container) :
    container.customized [] [] false = container := by
  simp [customized]

theorem Container.customized_customized (container : Container) (fragments fragments' : List String)
    (words words' : List (String × String)) (privileged privileged' : Bool) :
    (container.customized fragments words privileged).customized fragments' words' privileged' =
      container.customized (fragments ++ fragments') (words ++ words')
        (privileged || privileged') := by
  simp [customized, List.foldl_append, Bool.or_assoc]

theorem Container.appendPre_eq_customized (container : Container) (fragment : String) :
    container.appendPre fragment = container.customized [fragment] [] false := by
  simp [appendPre, customized]

theorem Container.wrapCommand_eq_customized (container : Container) (before after : String) :
    container.wrapCommand before after = container.customized [] [(before, after)] false := by
  simp [wrapCommand, customized, Command.wrap, wrapText]

theorem customizeContainer_eq (scope : Scope) (setup : JobGroup → Option String)
    (wrap : Container → Container) (group : JobGroup) (container : Container) :
    customizeContainer scope setup wrap group container =
      if scope.targetsContainer container.name then
        wrap (container.customized (setup group).toList [] false)
      else container.customized (setup group).toList [] false := by
  rw [customizeContainer]
  cases setup group with
  | none => rw [Option.toList_none, container.customized_nil]
  | some fragment =>
    rw [Option.toList_some, ← container.appendPre_eq_customized]
    rfl

/-! ## Wrappers -/

inductive Wrapper where
  /-- Words go around the command, or the container stays as it is. -/
  | plain (words : Container → Option (String × String))
  /-- The profiler goes before the command. -/
  | profiler (options : Profiler.Options)

namespace Wrapper

def words : Wrapper → Container → Option (String × String)
  | plain words, container => words container
  | profiler options, _ => some ("hpcrun " ++ Text.trim options.events, "")

/-- The wrapped containers run with all privileges. -/
def privileged : Wrapper → Bool
  | plain _ => false
  | profiler options => options.privileged

/-- The addon does what the wrapper says and no more. -/
def Describes : Wrapper → Configured Addon → Prop
  | plain words, addon =>
    addon.behaviour.IsScoped ∧ ∀ container, addon.behaviour.wrap container =
      match words container with
      | some (before, after) => container.wrapCommand before after
      | none => container
  | profiler options, addon =>
    addon.identifier = Profiler.identifier ∧ addon.behaviour = Profiler.addon options

theorem Describes.isScoped {w : Wrapper} {addon : Configured Addon} (h : w.Describes addon) :
    addon.behaviour.IsScoped := by
  cases w with
  | plain words => exact h.1
  | profiler options =>
    rw [h.2]
    exact fun _ _ => rfl

theorem Describes.wrap_eq {w : Wrapper} {addon : Configured Addon} (h : w.Describes addon)
    (container : Container) :
    addon.behaviour.wrap container =
      container.customized [] (w.words container).toList w.privileged := by
  cases w with
  | plain words =>
    rw [h.2]
    show _ = container.customized [] (words container).toList false
    cases words container with
    | none => exact container.customized_nil.symm
    | some w => exact container.wrapCommand_eq_customized w.1 w.2
  | profiler options =>
    rw [h.2]
    show Profiler.profile options container = container.customized []
      [("hpcrun " ++ Text.trim options.events, "")] options.privileged
    rw [Profiler.profile, Container.wrapCommand_eq_customized]
    cases options.privileged with
    | false => rfl
    | true => simp [Container.customized]

theorem Describes.isLocal {w : Wrapper} {addon : Configured Addon} (h : w.Describes addon) :
    addon.behaviour.IsLocal where
  isScoped := h.isScoped
  jobGroup_wrap container := by
    rw [h.wrap_eq]
    rfl

end Wrapper

/-- A configured addon that only wraps, and how. -/
structure WrappingAddon where
  addon : Configured Addon
  wrapper : Wrapper
  describes : wrapper.Describes addon

namespace WrappingAddon

/-- The setup fragment for the containers of a group, if the addon targets the group. -/
def fragment? (a : WrappingAddon) (group : JobGroup) : Option String :=
  if a.addon.behaviour.scope.targetsGroup group.name then a.addon.behaviour.setup group else none

/-- The addon targets the group and the containers of that name. -/
def wraps (a : WrappingAddon) (group : JobGroup) (container : Container) : Bool :=
  a.addon.behaviour.scope.targetsGroup group.name &&
    a.addon.behaviour.scope.targetsContainer container.name

/-- The words that go around the command of a container, which has got its setup fragment by
then. -/
def words? (a : WrappingAddon) (group : JobGroup) (container : Container) :
    Option (String × String) :=
  if a.wraps group container then
    a.wrapper.words (container.customized (a.fragment? group).toList [] false)
  else none

def grants (a : WrappingAddon) (group : JobGroup) (container : Container) : Bool :=
  a.wraps group container && a.wrapper.privileged

/-- Only the profiler grants privileges, and only if its options say so. -/
theorem profiler_of_grants {a : WrappingAddon} {group : JobGroup} {container : Container}
    (h : a.grants group container = true) :
    a.wraps group container = true ∧ a.addon.identifier = Profiler.identifier ∧
      ∃ options, a.addon.behaviour = Profiler.addon options ∧ options.privileged = true := by
  obtain ⟨hwraps, hprivileged⟩ := Bool.and_eq_true_iff.mp h
  refine ⟨hwraps, ?_⟩
  have hdescribes := a.describes
  cases hwrapper : a.wrapper with
  | plain words =>
    rw [hwrapper] at hprivileged
    cases hprivileged
  | profiler options =>
    rw [hwrapper] at hprivileged hdescribes
    exact ⟨hdescribes.1, options, hdescribes.2, hprivileged⟩

/-- What the addon does to a container of `group` that is not standalone. -/
def apply (a : WrappingAddon) (group : JobGroup) (container : Container) : Container :=
  container.customized (a.fragment? group).toList (a.words? group container).toList
    (a.grants group container)

theorem customizeTargeted_eq_apply (a : WrappingAddon) (group : JobGroup) (container : Container) :
    customizeTargeted a.addon.behaviour.scope a.addon.behaviour.setup a.addon.behaviour.wrap group
      container = a.apply group container := by
  rw [customizeTargeted]
  by_cases htarget : a.addon.behaviour.scope.targetsGroup group.name = true
  · have hfragment : a.fragment? group = a.addon.behaviour.setup group := by
      rw [fragment?, if_pos htarget]
    rw [if_pos htarget, customizeContainer_eq, ← hfragment, a.describes.wrap_eq]
    by_cases hcontainer : a.addon.behaviour.scope.targetsContainer container.name = true
    · have hwraps : a.wraps group container = true := by
        rw [wraps, htarget, hcontainer]
        rfl
      rw [apply, words?, grants, hwraps, if_pos rfl, if_pos hcontainer,
        Container.customized_customized, List.append_nil, List.nil_append, Bool.false_or,
        Bool.true_and]
    · have hwraps : a.wraps group container = false := by
        rw [wraps, Bool.eq_false_iff.mpr hcontainer, Bool.and_false]
      rw [apply, words?, grants, hwraps, if_neg Bool.false_ne_true, if_neg hcontainer]
      rfl
  · have hwraps : a.wraps group container = false := by
      rw [wraps, Bool.eq_false_iff.mpr htarget, Bool.false_and]
    rw [if_neg htarget, apply, words?, grants, hwraps, if_neg Bool.false_ne_true, fragment?,
      if_neg htarget]
    exact container.customized_nil.symm

end WrappingAddon
end MeasuredJob
