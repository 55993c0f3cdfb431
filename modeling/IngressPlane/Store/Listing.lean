import IngressPlane.Policy.Extract
import IngressPlane.Routing.RoutedIngress

/-!
The stored ingresses with their policies, oldest first.
-/
namespace IngressPlane

instance : Ord Instant where
  compare a b := (compare a.seconds b.seconds).then (compare a.nanos b.nanos)

/-- By creation time, with none before any, then by namespace and name. -/
def listingOrder (a b : ObjectMeta) : Ordering :=
  (compare a.created b.created).then
    ((compare a.scope b.scope).then (compare a.anyName b.anyName))

def listedBefore (a b : Ingress) : Bool := (listingOrder a.metadata b.metadata).isLE

namespace Store

def routed (store : Store) (ingress : Ingress) : RoutedIngress :=
  ⟨ingress, Policy.extract store ingress.metadata⟩

def listing (store : Store) : List RoutedIngress :=
  (store.ingresses.values.mergeSort listedBefore).map store.routed

end Store
end IngressPlane
