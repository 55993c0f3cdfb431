import IngressPlane.Resource.Meta

/-!
Services and the endpoints behind them.
-/
namespace IngressPlane

/-- The port of the pods that a service port leads to, by number or by name. -/
inductive TargetPort
  | number (n : Int32)
  | name (s : String)
  deriving DecidableEq

structure ServicePort where
  name : Option String := none
  port : Int32
  protocol : Option String := none
  target : Option TargetPort := none
  deriving DecidableEq

structure ServiceSpec where
  clusterIP : Option String := none
  externalName : Option String := none
  ports : Option (List ServicePort) := none
  selector : Option (Table String) := none
  kind : Option String := none
  deriving DecidableEq

structure Service where
  metadata : ObjectMeta := {}
  spec : Option ServiceSpec := none
  deriving DecidableEq

def Service.ports? (s : Service) : Option (List ServicePort) := s.spec.bind (·.ports)

structure EndpointPort where
  name : Option String := none
  port : Int32
  protocol : Option String := none
  deriving DecidableEq

structure EndpointSubset where
  /-- The addresses that are ready. -/
  addresses : Option (List String) := none
  ports : Option (List EndpointPort) := none
  deriving DecidableEq

structure Endpoints where
  metadata : ObjectMeta := {}
  subsets : Option (List EndpointSubset) := none
  deriving DecidableEq

open Json (member?)

def TargetPort.toJson : TargetPort → Json
  | .number n => .integer n.toInt
  | .name s => .string s

def ServicePort.toJson (p : ServicePort) : Json :=
  .object (member? "name" .string p.name ++ ("port", .integer p.port.toInt)
    :: member? "protocol" .string p.protocol ++ member? "targetPort" TargetPort.toJson p.target)

def ServiceSpec.toJson (s : ServiceSpec) : Json :=
  .object (member? "clusterIP" .string s.clusterIP
    ++ member? "externalName" .string s.externalName
    ++ member? "ports" (.list ServicePort.toJson) s.ports
    ++ member? "selector" (fun t => .object (t.mapEntries fun _ => Json.string).entries) s.selector
    ++ member? "type" .string s.kind)

def Service.toJson (s : Service) : Json :=
  .object (("apiVersion", .string "v1") :: ("kind", .string "Service")
    :: ("metadata", s.metadata.toJson) :: member? "spec" ServiceSpec.toJson s.spec)

namespace Json.Decoder

def targetPort : Decoder TargetPort
  | .string s => .ok (.name s)
  | json => .number <$> int32 json

def servicePort : Decoder ServicePort := fun json => do
  let ms ← members json
  return {
    name := ← optional ms "name" string
    port := ← orElse ms "port" int32 0
    protocol := ← optional ms "protocol" string
    target := ← optional ms "targetPort" targetPort }

def serviceSpec : Decoder ServiceSpec := fun json => do
  let ms ← members json
  return {
    clusterIP := ← optional ms "clusterIP" string
    externalName := ← optional ms "externalName" string
    ports := ← optional ms "ports" (list servicePort)
    selector := ← optional ms "selector" (table string)
    kind := ← optional ms "type" string }

def service : Decoder Service := fun json => do
  let ms ← members json
  return {
    metadata := ← orElse ms "metadata" objectMeta {}
    spec := ← optional ms "spec" serviceSpec }

def endpointPort : Decoder EndpointPort := fun json => do
  let ms ← members json
  return {
    name := ← optional ms "name" string
    port := ← orElse ms "port" int32 0
    protocol := ← optional ms "protocol" string }

def endpointAddress : Decoder String := fun json => do orElse (← members json) "ip" string ""

def endpointSubset : Decoder EndpointSubset := fun json => do
  let ms ← members json
  return {
    addresses := ← optional ms "addresses" (list endpointAddress)
    ports := ← optional ms "ports" (list endpointPort) }

def endpoints : Decoder Endpoints := fun json => do
  let ms ← members json
  return {
    metadata := ← orElse ms "metadata" objectMeta {}
    subsets := ← optional ms "subsets" (list endpointSubset) }

end Json.Decoder
end IngressPlane
