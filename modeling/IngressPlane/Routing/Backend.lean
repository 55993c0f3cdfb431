import IngressPlane.Policy.Basic
import IngressPlane.Routing.Endpoint

/-!
Backends: named pools of endpoints that locations send requests to.
-/
namespace IngressPlane

/-- The affinity cookie of a backend, and the paths that set it, by hostname. -/
structure BackendCookie where
  name : String := ""
  expires : String := ""
  maxAge : String := ""
  secure : Bool := false
  path : String := ""
  sameSite : String := ""
  conditionalSameSiteNone : Bool := false
  changeOnFailure : Bool := false
  locations : Table (List String) := .empty
  deriving DecidableEq

structure BackendAffinity where
  kind : String := ""
  mode : String := ""
  cookie : BackendCookie := {}
  deriving DecidableEq

structure TrafficShaping where
  weight : Int32 := 0
  weightTotal : Int32 := 0
  header : String := ""
  headerValue : String := ""
  headerPattern : String := ""
  cookie : String := ""
  deriving DecidableEq

structure Backend where
  name : String
  service : Option Service := none
  port : Option PortKey := none
  sslPassthrough : Bool := false
  endpoints : List Endpoint := []
  affinity : BackendAffinity := {}
  hashBy : HashPolicy := {}
  loadBalancing : String := ""
  /-- Set on canary backends, which are reached only as alternatives of other backends. -/
  noServer : Bool := false
  shaping : TrafficShaping := {}
  alternatives : List String := []
  deriving DecidableEq

def defaultBackendName : String := "upstream-default-backend"

def BackendCookie.toJson (c : BackendCookie) : Json :=
  .object [
    ("name", .string c.name),
    ("expires", .string c.expires),
    ("maxAge", .string c.maxAge),
    ("secure", .bool c.secure),
    ("path", .string c.path),
    ("sameSite", .string c.sameSite),
    ("conditionalSameSiteNone", .bool c.conditionalSameSiteNone),
    ("changeOnFailure", .bool c.changeOnFailure),
    ("locations", .object (c.locations.map Json.strings).entries)]

def BackendAffinity.toJson (a : BackendAffinity) : Json :=
  .object [
    ("affinityType", .string a.kind),
    ("affinityMode", .string a.mode),
    ("cookie", a.cookie.toJson)]

def TrafficShaping.toJson (t : TrafficShaping) : Json :=
  .object [
    ("weight", .integer t.weight.toInt),
    ("weightTotal", .integer t.weightTotal.toInt),
    ("header", .string t.header),
    ("headerValue", .string t.headerValue),
    ("headerPattern", .string t.headerPattern),
    ("cookie", .string t.cookie)]

def Backend.toJson (b : Backend) : Json :=
  .object [
    ("name", .string b.name),
    ("service", .option Service.toJson b.service),
    ("port", .option PortKey.toJson b.port),
    ("sslPassthrough", .bool b.sslPassthrough),
    ("endpoints", .list Endpoint.toJson b.endpoints),
    ("sessionAffinity", b.affinity.toJson),
    ("upstreamHashBy", .object [
      ("upstreamHashBy", .string b.hashBy.key),
      ("upstreamHashBySubset", .bool b.hashBy.subset),
      ("upstreamHashBySubsetSize", .integer b.hashBy.subsetSize.toInt)]),
    ("loadBalancing", .string b.loadBalancing),
    ("noServer", .bool b.noServer),
    ("trafficShapingPolicy", b.shaping.toJson),
    ("alternativeBackends", .strings b.alternatives)]

end IngressPlane
