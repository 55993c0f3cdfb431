import IngressPlane.Store.Basic

/-!
The endpoints behind a service port.
-/
namespace IngressPlane

def port? (n : Int32) : Option UInt16 :=
  if 0 ≤ n && n ≤ 65535 then some (UInt16.ofNat n.toInt.toNat) else none

/-- A port is meant by its own number or name, or by those of its target. -/
def ServicePort.matches (p : ServicePort) : PortKey → Bool
  | .number n => p.port = n || p.target = some (.number n)
  | .name s => p.name = some s || p.target = some (.name s)

/-- The number of an endpoint port that serves a service port: the protocols agree, and so do the
names where the service port has one. -/
def EndpointPort.serving? (p : EndpointPort) (servicePort : ServicePort) : Option UInt16 :=
  if p.protocol.getD "TCP" ≠ servicePort.protocol.getD "TCP" then none
  else if servicePort.name.getD "" ≠ "" && p.name ≠ servicePort.name then none
  else (port? p.port).filter (· ≠ 0)

def EndpointSubset.serving (s : EndpointSubset) (servicePort : ServicePort) : List Endpoint :=
  ((s.ports.getD []).filterMap (·.serving? servicePort)).flatMap fun port =>
    (s.addresses.getD []).map fun address => { address, port }

/-- The endpoint of a service that stands for a name outside of the cluster. -/
def ServiceSpec.externalEndpoints (s : ServiceSpec) (servicePort : ServicePort) : List Endpoint :=
  match s.externalName with
  | none => []
  | some address =>
    let port := match servicePort.target with
      | some (.number n) => if 0 < n then n else servicePort.port
      | _ => servicePort.port
    (port? port).toList.map fun port => { address, port }

namespace Store

def portEndpoints (store : Store) (key : String) (spec : ServiceSpec) (servicePort : ServicePort) :
    List Endpoint :=
  if spec.kind = some "ExternalName" then spec.externalEndpoints servicePort
  else
    match store.endpoints.get? key with
    | none => []
    | some endpoints =>
      ((endpoints.subsets.getD []).flatMap (·.serving servicePort)).eraseDups

def resolve (store : Store) (key : String) (port : PortKey) : Except LookupError (List Endpoint) := do
  let service ← store.service key
  match service.spec with
  | none => .error (.noPorts key)
  | some spec =>
    match spec.ports with
    | none => .error (.noPorts key)
    | some ports => return (ports.filter (·.matches port)).flatMap (store.portEndpoints key spec)

def clusterAddress (key : String) (spec : ServiceSpec) : Except LookupError String :=
  match spec.clusterIP with
  | some address =>
    if address ≠ "" && address ≠ "None" then .ok address else .error (.noClusterAddress key)
  | none => .error (.noClusterAddress key)

def clusterPort (key : String) (spec : ServiceSpec) : PortKey → Except LookupError Int32
  | .number n => .ok n
  | .name name =>
    match (spec.ports.getD []).find? (·.name = some name) with
    | some p => .ok p.port
    | none => .error (.noPortNamed key name)

def resolveCluster (store : Store) (key : String) (reference : Option ServiceRef) :
    Except LookupError Endpoint := do
  let service ← store.service key
  match service.spec with
  | none => .error (.noSpec key)
  | some spec =>
    let address ← clusterAddress key spec
    match reference.bind ServiceRef.portKey? with
    | none => .error (.noBackendPort key)
    | some portKey =>
      let number ← clusterPort key spec portKey
      match port? number with
      | some port => return { address, port }
      | none => .error (.portOutOfRange key number)

end Store
end IngressPlane
