import IngressPlane.Resource.Meta
import IngressPlane.Resource.PathType
import IngressPlane.Text.Decimal

/-!
Ingresses: rules that map hosts and paths to services. An unset option and an empty one are
different values. `IngressSpec.toJson` and `Json.Decoder.ingressSpec` are the two directions of the
wire format.
-/
namespace IngressPlane

structure PortRef where
  name : Option String := none
  number : Option Int32 := none
  deriving DecidableEq

structure ServiceRef where
  name : String
  port : Option PortRef := none
  deriving DecidableEq

structure ObjectRef where
  apiGroup : Option String := none
  kind : String
  name : String
  deriving DecidableEq

structure BackendRef where
  resource : Option ObjectRef := none
  service : Option ServiceRef := none
  deriving DecidableEq

structure PathRule where
  backend : BackendRef := {}
  path : Option String := none
  pathType : String := ""
  deriving DecidableEq

structure HttpRule where
  paths : List PathRule
  deriving DecidableEq

structure HostRule where
  host : Option String := none
  http : Option HttpRule := none
  deriving DecidableEq

structure TlsEntry where
  hosts : Option (List String) := none
  secretName : Option String := none
  deriving DecidableEq

structure IngressSpec where
  defaultBackend : Option BackendRef := none
  className : Option String := none
  rules : Option (List HostRule) := none
  tls : Option (List TlsEntry) := none
  deriving DecidableEq

structure Ingress where
  metadata : ObjectMeta := {}
  spec : IngressSpec := {}
  deriving DecidableEq

inductive PortKey
  | number (n : Int32)
  | name (s : String)
  deriving DecidableEq

namespace PortKey

def text : PortKey → String
  | .number n => Text.decimal n.toInt
  | .name s => s

def toJson : PortKey → Json
  | .number n => .integer n.toInt
  | .name s => .string s

end PortKey

/-- A positive number counts first, then a name that is not empty. -/
def PortRef.key? (p : PortRef) : Option PortKey :=
  match p.number, p.name with
  | some n, name => if 0 < n then some (.number n) else named? name
  | none, name => named? name
where
  named? : Option String → Option PortKey
    | some s => if s = "" then none else some (.name s)
    | none => none

def ServiceRef.portKey? (s : ServiceRef) : Option PortKey := s.port.bind PortRef.key?

/-- The name of the backend for a service reference in a namespace. References without a usable
port share one name. -/
def backendName (scope : String) (service : Option ServiceRef) : String :=
  match service with
  | some s =>
    match s.portKey? with
    | some port => scope ++ "-" ++ s.name ++ "-" ++ port.text
    | none => scope ++ "-INVALID"
  | none => scope ++ "-INVALID"

/-- The local service that stands for a service exported from another cluster. -/
def derivedServiceName (name : String) : String := "derived-" ++ name

namespace IngressSpec

def ruleList (s : IngressSpec) : List HostRule := s.rules.getD []

def tlsList (s : IngressSpec) : List TlsEntry := s.tls.getD []

def defaultService (s : IngressSpec) : Option ServiceRef := s.defaultBackend.bind (·.service)

end IngressSpec

def PathRule.setDefaultType (p : PathRule) : PathRule :=
  { p with pathType := PathType.normalized p.pathType }

def HostRule.setDefaultType (r : HostRule) : HostRule :=
  { r with http := r.http.map fun http => ⟨http.paths.map PathRule.setDefaultType⟩ }

/-- Makes `Prefix` of every path type that is neither `Exact` nor `Prefix`. -/
def IngressSpec.setDefaultPathType (s : IngressSpec) : IngressSpec :=
  { s with rules := s.rules.map fun rules => rules.map HostRule.setDefaultType }

def Ingress.setDefaultPathType (i : Ingress) : Ingress :=
  { i with spec := i.spec.setDefaultPathType }

open Json (member?)

def PortRef.toJson (p : PortRef) : Json :=
  .object (member? "name" .string p.name ++ member? "number" (fun n => .integer n.toInt) p.number)

def ServiceRef.toJson (s : ServiceRef) : Json :=
  .object (("name", .string s.name) :: member? "port" PortRef.toJson s.port)

def ObjectRef.toJson (o : ObjectRef) : Json :=
  .object (member? "apiGroup" .string o.apiGroup
    ++ [("kind", .string o.kind), ("name", .string o.name)])

def BackendRef.toJson (b : BackendRef) : Json :=
  .object (member? "resource" ObjectRef.toJson b.resource
    ++ member? "service" ServiceRef.toJson b.service)

def PathRule.toJson (p : PathRule) : Json :=
  .object (("backend", p.backend.toJson) :: member? "path" .string p.path
    ++ [("pathType", .string p.pathType)])

def HttpRule.toJson (h : HttpRule) : Json := .object [("paths", .list PathRule.toJson h.paths)]

def HostRule.toJson (r : HostRule) : Json :=
  .object (member? "host" .string r.host ++ member? "http" HttpRule.toJson r.http)

def TlsEntry.toJson (t : TlsEntry) : Json :=
  .object (member? "hosts" Json.strings t.hosts ++ member? "secretName" .string t.secretName)

def IngressSpec.toJson (s : IngressSpec) : Json :=
  .object (member? "defaultBackend" BackendRef.toJson s.defaultBackend
    ++ member? "ingressClassName" .string s.className
    ++ member? "rules" (.list HostRule.toJson) s.rules
    ++ member? "tls" (.list TlsEntry.toJson) s.tls)

namespace Json.Decoder

def portRef : Decoder PortRef := fun json => do
  let ms ← members json
  return { name := ← optional ms "name" string, number := ← optional ms "number" int32 }

def serviceRef : Decoder ServiceRef := fun json => do
  let ms ← members json
  return { name := ← orElse ms "name" string "", port := ← optional ms "port" portRef }

def objectRef : Decoder ObjectRef := fun json => do
  let ms ← members json
  return {
    apiGroup := ← optional ms "apiGroup" string
    kind := ← orElse ms "kind" string ""
    name := ← orElse ms "name" string "" }

def backendRef : Decoder BackendRef := fun json => do
  let ms ← members json
  return {
    resource := ← optional ms "resource" objectRef
    service := ← optional ms "service" serviceRef }

def pathRule : Decoder PathRule := fun json => do
  let ms ← members json
  return {
    backend := ← orElse ms "backend" backendRef {}
    path := ← optional ms "path" string
    pathType := ← orElse ms "pathType" string "" }

def httpRule : Decoder HttpRule := fun json => do
  let ms ← members json
  return { paths := ← orElse ms "paths" (list pathRule) [] }

def hostRule : Decoder HostRule := fun json => do
  let ms ← members json
  return { host := ← optional ms "host" string, http := ← optional ms "http" httpRule }

def tlsEntry : Decoder TlsEntry := fun json => do
  let ms ← members json
  return {
    hosts := ← optional ms "hosts" (list string)
    secretName := ← optional ms "secretName" string }

def specMembers : List String := ["defaultBackend", "ingressClassName", "rules", "tls"]

/-- An array stands for the members in their order, of which trailing ones may be left out. -/
def ingressSpec : Decoder IngressSpec := fun json => do
  let ms ← match json with
    | .array items =>
      if items.length ≤ specMembers.length then .ok (specMembers.zip items)
      else .error (.expected "at most four members")
    | json => members json
  return {
    defaultBackend := ← optional ms "defaultBackend" backendRef
    className := ← optional ms "ingressClassName" string
    rules := ← optional ms "rules" (list hostRule)
    tls := ← optional ms "tls" (list tlsEntry) }

def ingress : Decoder Ingress := fun json => do
  let ms ← members json
  return {
    metadata := ← orElse ms "metadata" objectMeta {}
    spec := ← orElse ms "spec" ingressSpec {} }

end Json.Decoder
end IngressPlane
