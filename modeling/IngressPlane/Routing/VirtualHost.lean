import IngressPlane.Certificate.Basic
import IngressPlane.Policy.Basic
import IngressPlane.Resource.Ingress

/-!
Virtual hosts and their locations: which path of a host goes to which backend, and under which
policy.
-/
namespace IngressPlane

/-- The name of the host that answers for all hosts without one of their own. -/
def catchAllHost : String := "_"

def rootPath : String := "/"

structure Owner where
  scope : String
  name : String
  /-- What its canary annotation says. -/
  canary : Option Bool
  deriving DecidableEq

structure LocationPolicy where
  auth : Authentication := {}
  mapping : PathMapping := {}
  redirect : Redirection := {}
  backendProtocol : String := ""
  defaultBackend : Option Service := none
  http2PushPreload : Bool := false
  tracing : Tracing := {}
  configurationSnippet : String := ""
  logs : Logging := {}
  denied : Option String := none
  deriving DecidableEq

def Policy.forLocation (p : Policy) : LocationPolicy :=
  { auth := p.auth
    mapping := p.mapping
    redirect := p.redirect
    backendProtocol := p.backendProtocol
    defaultBackend := p.defaultBackend
    http2PushPreload := p.http2PushPreload
    tracing := p.tracing
    configurationSnippet := p.configurationSnippet
    logs := p.logs
    denied := p.denied }

structure Location where
  path : String
  /-- The path before expansion. -/
  ingressPath : String
  pathType : PathType
  /-- Set while a fallback rather than a rule serves the location. -/
  isFallback : Bool := false
  backend : String
  service : Option Service := none
  port : Option PortKey := none
  /-- Unset only for the root of the catch-all host that no ingress has taken. -/
  owner : Option Owner := none
  policy : LocationPolicy := {}
  /-- The backend that stands in while the service has no endpoints. -/
  standIn : String := ""
  deriving DecidableEq

def Location.at (path : String) (pathType : PathType) (backend : String) : Location :=
  { path, ingressPath := path, pathType, backend }

def Location.key (l : Location) : String × PathType := (l.path, l.pathType)

structure VirtualHost where
  hostname : String
  aliases : List String := []
  keyPair : Option KeyPair := none
  sslPassthrough : Bool := false
  ciphers : String := ""
  preferServerCiphers : String := ""
  snippet : String := ""
  redirectFromToWww : Bool := false
  locations : List Location := []
  deriving DecidableEq

def Owner.toJson (o : Owner) : Json :=
  .object [
    ("namespace", .string o.scope),
    ("name", .string o.name),
    ("canary", .option .bool o.canary)]

def Location.toJson (l : Location) : Json :=
  .object [
    ("path", .string l.path),
    ("ingressPath", .string l.ingressPath),
    ("pathType", l.pathType.toJson),
    ("isDefBackend", .bool l.isFallback),
    ("backend", .string l.backend),
    ("service", .option Service.toJson l.service),
    ("port", .option PortKey.toJson l.port),
    ("ingress", .option Owner.toJson l.owner),
    ("auth", l.policy.auth.toJson),
    ("rewrite", l.policy.mapping.toJson),
    ("redirect", l.policy.redirect.toJson),
    ("backendProtocol", .string l.policy.backendProtocol),
    ("defaultBackend", .option Service.toJson l.policy.defaultBackend),
    ("defaultBackendUpstreamName", .string l.standIn),
    ("http2PushPreload", .bool l.policy.http2PushPreload),
    ("opentracing", l.policy.tracing.toJson),
    ("configurationSnippet", .string l.policy.configurationSnippet),
    ("logs", l.policy.logs.toJson),
    ("denied", .option .string l.policy.denied)]

def VirtualHost.toJson (h : VirtualHost) : Json :=
  .object [
    ("hostname", .string h.hostname),
    ("aliases", .strings h.aliases),
    ("sslCert", .option KeyPair.toJson h.keyPair),
    ("sslPassthrough", .bool h.sslPassthrough),
    ("sslCiphers", .string h.ciphers),
    ("sslPreferServerCiphers", .string h.preferServerCiphers),
    ("serverSnippet", .string h.snippet),
    ("redirectFromToWww", .bool h.redirectFromToWww),
    ("locations", .list Location.toJson h.locations)]

end IngressPlane
