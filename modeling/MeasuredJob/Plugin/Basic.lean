import MeasuredJob.Plugin.Kind
import MeasuredJob.Plugin.Scope
import MeasuredJob.Context
import MeasuredJob.Volume

/-!
# Plugins

Anyone may write a plugin, so a plugin is a value: how it takes its options, and what it does once
they are taken.  What it does is a `Metric`, which contributes containers, or an `Addon`, which
customizes them.  The state in which a plugin keeps its options is its own affair.  Taking options
may fail half-way, and then the state keeps what had been taken before.
-/

namespace MeasuredJob

/-- What is known about a plugin before it is configured. -/
structure Descriptor where
  identifier : String
  /-- One line for people. -/
  summary : String
  family : Family
  /-- The container image that the plugin uses by default. -/
  image : Option String := none
  /-- Where the tool behind the plugin comes from. -/
  url : Option String := none
deriving DecidableEq, Repr

namespace Descriptor

def defaultImage (descriptor : Descriptor) : String :=
  descriptor.image.getD ""

open Document.Encode (field optionalText)

def encode (descriptor : Descriptor) (kind : PluginKind) : Document :=
  .record <|
    field "identifier" (.text descriptor.identifier) ++
    field "summary" (.text descriptor.summary) ++
    field "family" (.text descriptor.family.name) ++
    field "kind" (.text kind.name) ++
    optionalText "image" descriptor.image ++
    optionalText "url" descriptor.url

end Descriptor

structure Metric where
  kind : MetricKind
  /-- The metric cannot do without a complete application. -/
  requiresApplication : Bool := kind == .monitor
  /-- The job groups in which the containers of a workload run. -/
  jobGroups : Context → List JobGroup := fun ctx =>
    [{ name := JobGroup.defaultName, replicas := ctx.pods }]
  containers : Context → Except Error (List Container)
  volumes : List Volume := []

structure Addon where
  scope : Scope
  containers : JobGroup → Context → Except Error (List Container) := fun _ _ => .ok []
  volumes : List Volume := []
  /-- A fragment for every container of a targeted job group. -/
  setup : JobGroup → Option String := fun _ => none
  wrap : Container → Container := id
  /-- Customize all containers, those of other plugins included.  An addon may change anything in
  a container, but it cannot add, drop or reorder containers here. -/
  customize : List JobGroup → (containers : List Container) →
      Except Error (Revision containers) := fun groups containers =>
    .ok ⟨customizeScoped scope setup wrap groups containers,
      length_customizeScoped scope setup wrap groups containers⟩

namespace Addon

/-- The addon customizes by its scope, its setup fragment and its wrap, and in no other way. -/
def IsScoped (addon : Addon) : Prop :=
  ∀ groups containers, addon.customize groups containers =
    .ok ⟨customizeScoped addon.scope addon.setup addon.wrap groups containers,
      length_customizeScoped addon.scope addon.setup addon.wrap groups containers⟩

end Addon

/-- A plugin whose configured form is an `α`. -/
structure Plugin (α : Type) : Type 1 where
  descriptor : Descriptor
  /-- Where the plugin keeps its options. -/
  State : Type
  fresh : State
  /-- Take the options of a bag, and say which one could not be read, if any. -/
  configure : OptionBag → State → State × Option Error
  validate : State → Option Error
  /-- The options, in the form in which `configure` takes them. -/
  options : State → OptionBag
  behaviour : State → α

structure Configured (α : Type) where
  identifier : String
  /-- The options as they took effect. -/
  options : OptionBag
  behaviour : α

namespace Plugin

/-- A plugin of one declaration: fresh, given its options, and checked. -/
def use {α : Type} (plugin : Plugin α) (bag : OptionBag) : Except Error (Configured α) := do
  let (state, fault) := plugin.configure bag plugin.fresh
  Error.check fault
  Error.check (plugin.validate state)
  pure {
    identifier := plugin.descriptor.identifier
    options := plugin.options state
    behaviour := plugin.behaviour state }

end Plugin

inductive AnyPlugin : Type 1 where
  | metric (plugin : Plugin Metric)
  | addon (plugin : Plugin Addon)

namespace AnyPlugin

def kind : AnyPlugin → PluginKind
  | .metric _ => .metric
  | .addon _ => .addon

def descriptor : AnyPlugin → Descriptor
  | .metric plugin => plugin.descriptor
  | .addon plugin => plugin.descriptor

def identifier (plugin : AnyPlugin) : String :=
  plugin.descriptor.identifier

/-- The plugin as a metric, or why it is none. -/
def asMetric : AnyPlugin → Except Error (Plugin Metric)
  | .metric plugin => .ok plugin
  | .addon plugin => .error (.wrongKind plugin.descriptor.identifier .metric .addon)

/-- The plugin as an addon, or why it is none. -/
def asAddon : AnyPlugin → Except Error (Plugin Addon)
  | .addon plugin => .ok plugin
  | .metric plugin => .error (.wrongKind plugin.descriptor.identifier .addon .metric)

end AnyPlugin
end MeasuredJob
