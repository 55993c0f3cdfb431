import IngressPlane.Routing.Backend
import IngressPlane.Routing.RoutedIngress
import IngressPlane.Store.Resolve
import IngressPlane.Synthesis.Diagnostic

/-!
One backend for each distinct service reference, configured by the first ingress that makes it, and
the cluster's default backend.
-/
namespace IngressPlane

def localEndpoint : Endpoint := { address := "127.0.0.1", port := 8181 }

def Store.firstPortEndpoints (store : Store) (key : String) (service : Service) : List Endpoint :=
  match (service.ports?.getD []).head? with
  | none => []
  | some port => (store.resolve key (.number port.port)).toOption.getD []

/-- The backend of the default service, or of the local endpoint where that has no endpoints. -/
def Store.defaultBackend (store : Store) (serviceKey : Option String) : Backend × List Diagnostic :=
  match serviceKey.filter (· ≠ "") with
  | none => ({ name := defaultBackendName, endpoints := [localEndpoint] }, [])
  | some key =>
    match store.service key with
    | .error e =>
      ({ name := defaultBackendName, endpoints := [localEndpoint] }, [.service key e.message])
    | .ok service =>
      let found := store.firstPortEndpoints key service
      ({ name := defaultBackendName
         service := some service
         endpoints := if found.isEmpty then [localEndpoint] else found }, [])

namespace Backend

def shapingOf (c : CanaryPolicy) : TrafficShaping :=
  { weight := c.weight
    weightTotal := c.weightTotal
    header := c.header
    headerValue := c.headerValue
    headerPattern := c.headerPattern
    cookie := c.cookie }

/-- The cluster address of a service, for policies that ask for it. -/
def clusterEndpoints (store : Store) (policy : Policy) (serviceKey : String) (reference : ServiceRef) :
    List Endpoint × List Diagnostic :=
  if policy.viaCluster then
    match store.resolveCluster serviceKey (some reference) with
    | .ok endpoint => ([endpoint], [])
    | .error e => ([], [.clusterEndpoint serviceKey e.message])
  else ([], [])

def podEndpoints (store : Store) (name serviceKey : String) (port : Option PortKey) :
    List Endpoint × List Diagnostic :=
  match port with
  | none => ([], [.endpoints name serviceKey "the service reference has no port"])
  | some port =>
    match store.resolve serviceKey port with
    | .ok endpoints => (endpoints, [])
    | .error e => ([], [.endpoints name serviceKey e.message])

def ofReference (store : Store) (resource : RoutedIngress) (reference : ServiceRef) :
    Backend × List Diagnostic :=
  let policy := resource.policy
  let name := resource.backendName reference
  let port := reference.portKey?
  let serviceKey := resource.scope ++ "/" ++ derivedServiceName reference.name
  let (atCluster, clusterNotes) := clusterEndpoints store policy serviceKey reference
  let (endpoints, podNotes) :=
    if atCluster.isEmpty then podEndpoints store name serviceKey port else (atCluster, [])
  let (service, serviceNotes) := match store.service serviceKey with
    | .ok service => (some service, [])
    | .error e => (none, [Diagnostic.service serviceKey e.message])
  ({ name
     service
     port
     endpoints
     hashBy := policy.hashBy
     loadBalancing :=
       if policy.loadBalancing = "" then store.settings.loadBalancing else policy.loadBalancing
     noServer := policy.canary.enabled
     shaping := if policy.canary.enabled then shapingOf policy.canary else {} },
   clusterNotes ++ podNotes ++ serviceNotes)

def addReference (store : Store) (built : Table Backend × List Diagnostic)
    (reference : RoutedIngress × ServiceRef) : Table Backend × List Diagnostic :=
  let name := reference.1.backendName reference.2
  if built.1.contains name then built
  else
    let (backend, notes) := ofReference store reference.1 reference.2
    (built.1.insert name backend, built.2 ++ notes)

end Backend

def allReferences (resources : List RoutedIngress) : List (RoutedIngress × ServiceRef) :=
  resources.flatMap fun r => r.serviceRefs.map (r, ·)

def Store.buildBackends (store : Store) (resources : List RoutedIngress) (fallback : Backend) :
    Table Backend × List Diagnostic :=
  (allReferences resources).foldl (Backend.addReference store)
    (Table.empty.insert fallback.name fallback, [])

end IngressPlane
