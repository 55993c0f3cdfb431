import IngressPlane.Resource.Ingress

/-!
Endpoints that traffic is sent to, and the services that are exposed on raw TCP and UDP ports.
-/
namespace IngressPlane

structure Endpoint where
  address : String
  port : UInt16
  weight : Option UInt32 := none
  deriving DecidableEq

def Endpoint.toJson (e : Endpoint) : Json :=
  .object (("address", .string e.address) :: ("port", .nat e.port.toNat)
    :: Json.member? "weight" (fun w => .nat w.toNat) e.weight)

inductive Protocol
  | tcp
  | udp
  deriving DecidableEq

def Protocol.text : Protocol → String
  | .tcp => "TCP"
  | .udp => "UDP"

structure StreamService where
  port : UInt16
  backendPort : PortKey
  name : String
  scope : String
  protocol : Protocol
  endpoints : List Endpoint
  deriving DecidableEq

def StreamService.toJson (s : StreamService) : Json :=
  .object [
    ("port", .nat s.port.toNat),
    ("backend", .object [
      ("port", s.backendPort.toJson),
      ("name", .string s.name),
      ("namespace", .string s.scope),
      ("protocol", .string s.protocol.text)]),
    ("endpoints", .list Endpoint.toJson s.endpoints)]

end IngressPlane
