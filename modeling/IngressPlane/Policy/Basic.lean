import IngressPlane.Resource.Service

/-!
The policy that an ingress asks for by its annotations.
-/
namespace IngressPlane

structure Authentication where
  kind : String := ""
  realm : String := ""
  file : String := ""
  secured : Bool := false
  secret : String := ""
  secretKind : String := ""
  /-- What the password file has to hold. -/
  contents : List UInt8 := []
  deriving DecidableEq

structure CanaryPolicy where
  enabled : Bool := false
  weight : Int32 := 0
  weightTotal : Int32 := 100
  header : String := ""
  headerValue : String := ""
  headerPattern : String := ""
  cookie : String := ""
  /-- What the annotation itself says: unset when there is none. -/
  declared : Option Bool := none
  deriving DecidableEq

structure Tracing where
  enabled : Bool := false
  isSet : Bool := false
  trusted : Bool := false
  trustIsSet : Bool := false
  deriving DecidableEq

structure Redirection where
  url : String := ""
  code : UInt16 := 0
  fromToWww : Bool := false
  deriving DecidableEq

/-- What becomes of the path of a request, and which requests are sent on to HTTPS. -/
structure PathMapping where
  target : String := ""
  sslRedirect : Bool := false
  forceSslRedirect : Bool := false
  appRoot : String := ""
  useRegex : Bool := false
  deriving DecidableEq

structure AffinityCookie where
  name : String := ""
  expires : String := ""
  maxAge : String := ""
  path : String := ""
  secure : Bool := false
  sameSite : String := ""
  conditionalSameSiteNone : Bool := false
  changeOnFailure : Bool := false
  deriving DecidableEq

structure AffinityPolicy where
  kind : String := ""
  mode : String := ""
  /-- Under `legacy`, canary backends do not take on the affinity of the backend they shadow. -/
  canaryBehavior : String := ""
  cookie : AffinityCookie := {}
  deriving DecidableEq

structure CipherPolicy where
  ciphers : String := ""
  preferServerCiphers : String := ""
  deriving DecidableEq

structure HashPolicy where
  key : String := ""
  subset : Bool := false
  subsetSize : Int32 := 0
  deriving DecidableEq

structure Logging where
  access : Bool := true
  /-- Whether each mapping of a path is logged too. -/
  mapping : Bool := false
  deriving DecidableEq

structure Policy where
  aliases : List String := []
  auth : Authentication := {}
  backendProtocol : String := ""
  canary : CanaryPolicy := {}
  configurationSnippet : String := ""
  defaultBackend : Option Service := none
  /-- Why requests have to be refused, if they have. -/
  denied : Option String := none
  http2PushPreload : Bool := false
  loadBalancing : String := ""
  logs : Logging := {}
  tracing : Tracing := {}
  redirect : Redirection := {}
  mapping : PathMapping := {}
  serverSnippet : String := ""
  viaCluster : Bool := false
  affinity : AffinityPolicy := {}
  ciphers : CipherPolicy := {}
  sslPassthrough : Bool := false
  streamSnippet : String := ""
  hashBy : HashPolicy := {}
  deriving DecidableEq

def Policy.withoutSnippets (p : Policy) : Policy :=
  { p with configurationSnippet := "", serverSnippet := "", streamSnippet := "" }

def Authentication.toJson (a : Authentication) : Json :=
  .object [
    ("authType", .string a.kind),
    ("realm", .string a.realm),
    ("file", .string a.file),
    ("secured", .bool a.secured),
    ("secret", .string a.secret),
    ("secretType", .string a.secretKind)]

def CanaryPolicy.toJson (c : CanaryPolicy) : Json :=
  .object [
    ("enabled", .bool c.enabled),
    ("weight", .integer c.weight.toInt),
    ("weightTotal", .integer c.weightTotal.toInt),
    ("header", .string c.header),
    ("headerValue", .string c.headerValue),
    ("headerPattern", .string c.headerPattern),
    ("cookie", .string c.cookie),
    ("annotation", .option .bool c.declared)]

def Tracing.toJson (t : Tracing) : Json :=
  .object [
    ("enabled", .bool t.enabled),
    ("set", .bool t.isSet),
    ("trustEnabled", .bool t.trusted),
    ("trustSet", .bool t.trustIsSet)]

def Redirection.toJson (r : Redirection) : Json :=
  .object [
    ("url", .string r.url),
    ("code", .nat r.code.toNat),
    ("fromToWww", .bool r.fromToWww)]

def PathMapping.toJson (r : PathMapping) : Json :=
  .object [
    ("target", .string r.target),
    ("sslRedirect", .bool r.sslRedirect),
    ("forceSslRedirect", .bool r.forceSslRedirect),
    ("appRoot", .string r.appRoot),
    ("useRegex", .bool r.useRegex)]

def AffinityCookie.toJson (c : AffinityCookie) : Json :=
  .object [
    ("name", .string c.name),
    ("expires", .string c.expires),
    ("maxAge", .string c.maxAge),
    ("path", .string c.path),
    ("secure", .bool c.secure),
    ("sameSite", .string c.sameSite),
    ("conditionalSameSiteNone", .bool c.conditionalSameSiteNone),
    ("changeOnFailure", .bool c.changeOnFailure)]

def AffinityPolicy.toJson (a : AffinityPolicy) : Json :=
  .object [
    ("affinityType", .string a.kind),
    ("mode", .string a.mode),
    ("canaryBehavior", .string a.canaryBehavior),
    ("cookie", a.cookie.toJson)]

def CipherPolicy.toJson (c : CipherPolicy) : Json :=
  .object [
    ("ciphers", .string c.ciphers),
    ("preferServerCiphers", .string c.preferServerCiphers)]

def HashPolicy.toJson (h : HashPolicy) : Json :=
  .object [
    ("hashBy", .string h.key),
    ("subset", .bool h.subset),
    ("subsetSize", .integer h.subsetSize.toInt)]

def Logging.toJson (l : Logging) : Json :=
  .object [("access", .bool l.access), ("rewrite", .bool l.mapping)]

def Policy.toJson (p : Policy) : Json :=
  .object [
    ("aliases", .strings p.aliases),
    ("auth", p.auth.toJson),
    ("backendProtocol", .string p.backendProtocol),
    ("canary", p.canary.toJson),
    ("configurationSnippet", .string p.configurationSnippet),
    ("defaultBackend", .option Service.toJson p.defaultBackend),
    ("denied", .option .string p.denied),
    ("http2PushPreload", .bool p.http2PushPreload),
    ("loadBalancing", .string p.loadBalancing),
    ("logs", p.logs.toJson),
    ("opentracing", p.tracing.toJson),
    ("redirect", p.redirect.toJson),
    ("rewrite", p.mapping.toJson),
    ("serverSnippet", .string p.serverSnippet),
    ("serviceUpstream", .bool p.viaCluster),
    ("sessionAffinity", p.affinity.toJson),
    ("sslCipher", p.ciphers.toJson),
    ("sslPassthrough", .bool p.sslPassthrough),
    ("streamSnippet", .string p.streamSnippet),
    ("upstreamHashBy", p.hashBy.toJson)]

end IngressPlane
