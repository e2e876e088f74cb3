import MeasuredJob.Registry

/-!
# Resolved declarations

The plugins of a declaration, found, configured and checked.  Everything is resolved before any
plugin contributes, so a bad option never leaves a partial composition behind.
-/

namespace MeasuredJob

/-- A plugin as it took effect in a composition. -/
structure ResolvedUse where
  identifier : String
  kind : PluginKind
  options : OptionBag
deriving DecidableEq

structure Resolution where
  metrics : List (Configured Metric)
  addons : List (Configured Addon)

namespace Resolution

/-- The plugins in the order in which they apply, with their effective options. -/
def uses (resolution : Resolution) : List ResolvedUse :=
  (resolution.metrics.map fun m => ⟨m.identifier, .metric, m.options⟩) ++
    (resolution.addons.map fun a => ⟨a.identifier, .addon, a.options⟩)

/-- Who contributed a container, for messages. -/
def contributorName (resolution : Resolution) : Option Contributor → String
  | some (.metric i) => (resolution.metrics[i]?.map Configured.identifier).getD "application"
  | some (.addon i) => (resolution.addons[i]?.map Configured.identifier).getD "application"
  | some .application => "application"
  | none => "application"

end Resolution

namespace Registry

/-- Resolve a declaration, the metrics before the addons and each in declared order. -/
def resolveAll (registry : Registry) (decl : Declaration) : Except Error Resolution := do
  let metrics ← decl.metrics.mapM registry.useMetric
  let addons ← decl.addons.mapM registry.useAddon
  pure { metrics, addons }

end Registry
end MeasuredJob
