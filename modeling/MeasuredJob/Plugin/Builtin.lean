import MeasuredJob.Registry
import MeasuredJob.Plugin.Workload
import MeasuredJob.Plugin.Sampler
import MeasuredJob.Plugin.Companion
import MeasuredJob.Plugin.Profiler
import MeasuredJob.Plugin.Mount

/-!
# The plugins that come with the library
-/

namespace MeasuredJob
namespace Builtin

def plugins : List AnyPlugin := [
  .metric Workload.pennant.plugin,
  .metric Workload.lammps.plugin,
  .metric Sampler.plugin,
  .addon Companion.plugin,
  .addon Profiler.plugin,
  .addon (Mount.plugin .configMap),
  .addon (Mount.plugin .secret),
  .addon (Mount.plugin .persistentVolumeClaim),
  .addon (Mount.plugin .hostPath),
  .addon (Mount.plugin .emptyDir)]

/-- Add plugins of which those with a taken identifier are passed over. -/
def extend (registry : Registry) (ps : List AnyPlugin) : Registry :=
  ps.foldl (fun r p => match r.register p with
    | .ok r' => r'
    | .error _ => r) registry

def registry : Registry :=
  extend Registry.empty plugins

end Builtin
end MeasuredJob
