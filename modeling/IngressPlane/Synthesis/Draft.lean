import IngressPlane.Routing.Backend
import IngressPlane.Routing.VirtualHost
import IngressPlane.Synthesis.Diagnostic

/-!
Drafts: the backends and hosts between the stages of synthesis, with what has been noted so far.
-/
namespace IngressPlane

structure Draft where
  /-- By their names. -/
  backends : Table Backend
  /-- By their hostnames. -/
  hosts : Table VirtualHost
  notes : List Diagnostic := []

namespace Draft

def locations (d : Draft) : List Location := d.hosts.values.flatMap (·.locations)

end Draft
end IngressPlane
