import IngressPlane.Routing.Configuration
import IngressPlane.Routing.RoutedIngress

/-!
Overlap: a path that an ingress claims may not already belong to another ingress, unless one of the
two says whether it is a canary.
-/
namespace IngressPlane

structure Conflict where
  host : String
  path : String
  /-- The ingress that has the path. -/
  scope : String
  name : String
  deriving DecidableEq

def Conflict.message (c : Conflict) : String :=
  "host \"" ++ c.host ++ "\" and path \"" ++ c.path
    ++ "\" is already defined in multiclusteringress " ++ c.scope ++ "/" ++ c.name

def Owner.isSame (a b : Owner) : Bool := a.scope = b.scope && a.name = b.name

namespace Configuration

def ownersAt (c : Configuration) (host path : String) : List Owner :=
  (((c.hosts.filter (·.hostname = host)).flatMap (·.locations)).filter fun l =>
    l.path = path && !l.isFallback).filterMap (·.owner)

/-- The owner that keeps a path from `claimant`: none where the claimant is itself an owner. -/
def rivalAt? (c : Configuration) (claimant : Owner) (host path : String) : Option Owner :=
  let owners := c.ownersAt host path
  if owners.any (·.isSame claimant) then none
  else owners.find? fun owner => claimant.canary.isNone && owner.canary.isNone

def conflict? (c : Configuration) (candidate : RoutedIngress) : Option Conflict :=
  candidate.pathClaims.findSome? fun claim =>
    (c.rivalAt? candidate.owner claim.host claim.path).map fun rival =>
      ⟨claim.host, claim.path, rival.scope, rival.name⟩

end Configuration
end IngressPlane
