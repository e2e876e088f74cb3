import MeasuredJob.Plugin.Basic
import MeasuredJob.Text.Debug

/-!
# The registry of plugins

Plugins are found by their identifiers.  The first plugin of an identifier stays: registering
another one fails and changes nothing.  Everything that lists plugins lists them in the order of
their identifiers.
-/

namespace MeasuredJob

structure Registry : Type 1 where
  plugins : Table AnyPlugin
  /-- Every plugin is found under its own identifier. -/
  keyed : ∀ e ∈ plugins.entries, e.1 = e.2.identifier

namespace Registry

def empty : Registry := ⟨∅, fun _ h => absurd h List.not_mem_nil⟩

/-- Add a plugin whose identifier is not taken. -/
def register (registry : Registry) (plugin : AnyPlugin) : Except Error Registry :=
  if registry.plugins.contains plugin.identifier then
    .error (.duplicatePlugin plugin.identifier)
  else
    .ok {
      plugins := registry.plugins.insert plugin.identifier plugin
      keyed := fun e he => by
        rcases Table.mem_of_mem_insertEntry he with rfl | he
        · rfl
        · exact registry.keyed e he }

/-! ## Finding plugins -/

def lookup (registry : Registry) (identifier : String) : Option AnyPlugin :=
  registry.plugins.get? identifier

/-- The plugin of an identifier that has to be registered. -/
def resolve (registry : Registry) (identifier : String) : Except Error AnyPlugin :=
  match registry.lookup identifier with
  | some plugin => .ok plugin
  | none => .error (.unknownPlugin identifier)

def contains (registry : Registry) (identifier : String) : Bool :=
  registry.plugins.contains identifier

def size (registry : Registry) : Nat :=
  registry.plugins.size

def isEmpty (registry : Registry) : Bool :=
  registry.plugins.isEmpty

/-- The plugins of one family, or all of them. -/
def ofFamily (registry : Registry) (family? : Option Family) : List AnyPlugin :=
  registry.plugins.values.filter fun plugin =>
    match family? with
    | some family => plugin.descriptor.family == family
    | none => true

def list (registry : Registry) (family? : Option Family) : List String :=
  (registry.ofFamily family?).map AnyPlugin.identifier

def descriptors (registry : Registry) : List Descriptor :=
  registry.plugins.values.map AnyPlugin.descriptor

/-- The registry for people who look for faults. -/
def debug (registry : Registry) : String :=
  let identifiers := registry.plugins.keys.map Text.debug
  "Registry \x7b plugins: [" ++ ", ".intercalate identifiers ++ "] \x7d"

/-! ## Using plugins -/

def useMetric (registry : Registry) (use : PluginUse) : Except Error (Configured Metric) :=
  match registry.lookup use.name with
  | none => .error (.unknownPlugin use.name)
  | some (.metric plugin) => plugin.use use.bag
  | some (.addon _) => .error (.wrongKind use.name .metric .addon)

def useAddon (registry : Registry) (use : PluginUse) : Except Error (Configured Addon) :=
  match registry.lookup use.name with
  | none => .error (.unknownPlugin use.name)
  | some (.addon plugin) => plugin.use use.bag
  | some (.metric _) => .error (.wrongKind use.name .addon .metric)

end Registry
end MeasuredJob
