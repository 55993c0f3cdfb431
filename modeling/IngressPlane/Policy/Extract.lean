import IngressPlane.Net.Uri
import IngressPlane.Policy.Authentication
import IngressPlane.Text.AsciiCase

/-!
The policy of an ingress, read from its annotations. A policy that is missing or cannot be read
stays at its default, unless its failure denies access.
-/
namespace IngressPlane

open Text

def Logging.read (r : AnnotationReader) : Logging :=
  { access := r.boolOr "enable-access-log" true, mapping := r.boolOr "enable-rewrite-log" false }

def Tracing.read (r : AnnotationReader) : Tracing :=
  match r.bool "enable-opentracing" with
  | .error _ => {}
  | .ok enabled =>
    match r.bool "opentracing-trust-incoming-span" with
    | .error _ => { enabled, isSet := true }
    | .ok trusted => { enabled, isSet := true, trusted, trustIsSet := true }

def PathMapping.read (r : AnnotationReader) : PathMapping :=
  { target := r.stringOr "rewrite-target" ""
    sslRedirect := r.boolOr "ssl-redirect" true
    forceSslRedirect := r.boolOr "force-ssl-redirect" false
    appRoot := r.stringOr "app-root" ""
    useRegex := r.boolOr "use-regex" false }

def HashPolicy.read (r : AnnotationReader) : HashPolicy :=
  { key := r.stringOr "upstream-hash-by" ""
    subset := r.boolOr "upstream-hash-by-subset" false
    subsetSize := r.intOr "upstream-hash-by-subset-size" 3 }

/-- The canary annotation itself: unset when there is none, and false unless its value is true. -/
def CanaryPolicy.declaredBy (r : AnnotationReader) : Option Bool :=
  match r.bool "canary" with
  | .ok enabled => some enabled
  | .error .missing => none
  | .error _ => some false

/-- Whether any of the settings that only a canary has is given. -/
def CanaryPolicy.isConfigured (c : CanaryPolicy) : Bool :=
  0 < c.weight || c.header ≠ "" || c.headerValue ≠ "" || c.headerPattern ≠ "" || c.cookie ≠ ""

def CanaryPolicy.read (r : AnnotationReader) : Except ReadFailure CanaryPolicy :=
  let declared := declaredBy r
  let policy : CanaryPolicy := {
    enabled := declared.getD false
    weight := r.intOr "canary-weight" 0
    weightTotal := r.intOr "canary-weight-total" 100
    header := r.stringOr "canary-by-header" ""
    headerValue := r.stringOr "canary-by-header-value" ""
    headerPattern := r.stringOr "canary-by-header-pattern" ""
    cookie := r.stringOr "canary-by-cookie" ""
    declared }
  if !policy.enabled && policy.isConfigured then
    .error (.inconsistent "canary" "configured but not enabled")
  else .ok policy

def Redirection.checked (r : AnnotationReader) (name url : String) : Except ReadFailure String :=
  if Uri.isAbsolute url then .ok url else .error (.invalid (r.key name) url)

/-- The code of a permanent redirect, where it is one of the redirect codes. -/
def Redirection.permanentCode (r : AnnotationReader) : UInt16 :=
  match r.int "permanent-redirect-code" with
  | .ok code => if 300 ≤ code && code ≤ 308 then UInt16.ofNat code.toInt.toNat else 301
  | .error _ => 301

/-- A temporary redirect counts before a permanent one. -/
def Redirection.read (r : AnnotationReader) : Except ReadFailure Redirection :=
  let fromToWww := r.boolOr "from-to-www-redirect" false
  match r.string "temporal-redirect" with
  | .ok location => do
    return { url := ← checked r "temporal-redirect" location, code := 302, fromToWww }
  | .error _ =>
    match r.string "permanent-redirect" with
    | .ok location => do
      return { url := ← checked r "permanent-redirect" location, code := permanentCode r, fromToWww }
    | .error _ => if fromToWww then .ok { fromToWww } else .error .missing

/-- A duration in seconds; anything but ASCII digits reads as none. -/
def AffinityCookie.duration (r : AnnotationReader) (name : String) : String :=
  let value := r.stringOr name ""
  if value.toList.all isDigit then value else ""

def AffinityCookie.read (r : AnnotationReader) : AffinityCookie :=
  { name := r.stringOr "session-cookie-name" "INGRESSCOOKIE"
    expires := duration r "session-cookie-expires"
    maxAge := duration r "session-cookie-max-age"
    path := r.stringOr "session-cookie-path" ""
    secure := r.boolOr "session-cookie-secure" false
    sameSite := r.stringOr "session-cookie-samesite" ""
    conditionalSameSiteNone := r.boolOr "session-cookie-conditional-samesite-none" false
    changeOnFailure := r.boolOr "session-cookie-change-on-failure" false }

def AffinityPolicy.read (r : AnnotationReader) : AffinityPolicy :=
  let kind := r.stringOr "affinity" ""
  { kind
    mode := if r.stringOr "affinity-mode" "" = "persistent" then "persistent" else "balanced"
    canaryBehavior :=
      if r.stringOr "affinity-canary-behavior" "" = "legacy" then "legacy" else "sticky"
    cookie := if kind = "cookie" then .read r else {} }

def isCipherChar (c : Char) : Bool :=
  c.isAlphanum || c = '+' || c = ':' || c = '_' || c = '-' || c = '!'

def CipherPolicy.preference (r : AnnotationReader) : String :=
  match r.bool "ssl-prefer-server-ciphers" with
  | .ok true => "on"
  | .ok false => "off"
  | .error _ => ""

def CipherPolicy.read (r : AnnotationReader) : Except ReadFailure CipherPolicy :=
  let preferServerCiphers := preference r
  match r.string "ssl-ciphers" with
  | .ok ciphers =>
    if ciphers.toList.all isCipherChar then .ok { ciphers, preferServerCiphers }
    else .error (.invalid (r.key "ssl-ciphers") ciphers)
  | .error _ =>
    if preferServerCiphers = "" then .error .missing else .ok { preferServerCiphers }

namespace Policy

def protocols : List String := ["AUTO_HTTP", "HTTP", "HTTPS", "AJP", "GRPC", "GRPCS", "FCGI"]

/-- The protocol spoken to the backend; HTTP unless a known one is named. -/
def readProtocol (r : AnnotationReader) : String :=
  let protocol := asciiUpper (trim (r.stringOr "backend-protocol" ""))
  if protocols.contains protocol then protocol else "HTTP"

def readAliases (r : AnnotationReader) : Except ReadFailure (List String) :=
  ascending <$> r.list "server-alias"

def readDefaultBackend (r : AnnotationReader) (scope : String) (store : Store) :
    Except ReadFailure Service := do
  let name ← r.string "default-backend"
  let key := scope ++ "/" ++ name
  (store.service key).mapError fun e =>
    .inconsistent "default-backend" ("unexpected error reading service " ++ key ++ ": " ++ e.message)

def orDefault {α : Type} (fallback : α) (reading : Except ReadFailure α) : α :=
  reading.toOption.getD fallback

def denial? {α : Type} : Except ReadFailure α → Option String
  | .error (.denied reason) => some (ReadFailure.denied reason).message
  | _ => none

def extract (store : Store) (owner : ObjectMeta) : Policy :=
  let r : AnnotationReader := ⟨store.options.annotationPrefix, owner.annotations⟩
  let auth := Authentication.read r owner store
  { aliases := orDefault [] (readAliases r)
    auth := orDefault {} auth
    backendProtocol := readProtocol r
    canary := orDefault {} (CanaryPolicy.read r)
    configurationSnippet := r.stringOr "configuration-snippet" ""
    defaultBackend := (readDefaultBackend r owner.scopeText store).toOption
    denied := denial? auth
    http2PushPreload := r.boolOr "http2-push-preload" false
    loadBalancing := r.stringOr "load-balance" ""
    logs := .read r
    tracing := .read r
    redirect := orDefault {} (Redirection.read r)
    mapping := .read r
    serverSnippet := r.stringOr "server-snippet" ""
    viaCluster := r.boolOr "service-upstream" false
    affinity := .read r
    ciphers := orDefault {} (CipherPolicy.read r)
    sslPassthrough := r.boolOr "ssl-passthrough" false
    streamSnippet := r.stringOr "stream-snippet" ""
    hashBy := .read r }

end Policy
end IngressPlane
