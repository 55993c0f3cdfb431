import IngressPlane.Policy.Basic
import IngressPlane.Routing.VirtualHost

/-!
An ingress with its policy, and what its rules ask for: hosts, and paths that lead to services.
-/
namespace IngressPlane

structure RoutedIngress where
  ingress : Ingress
  policy : Policy
  deriving DecidableEq

structure PathClaim where
  host : String
  path : String
  pathType : PathType
  service : ServiceRef
  deriving DecidableEq

def HostRule.hostname (r : HostRule) : String :=
  match r.host with
  | some host => if host = "" then catchAllHost else host
  | none => catchAllHost

def HostRule.paths (r : HostRule) : List PathRule := (r.http.map (·.paths)).getD []

def PathRule.location (p : PathRule) : String :=
  match p.path with
  | some path => if path = "" then rootPath else path
  | none => rootPath

/-- A path without a service claims nothing. -/
def PathRule.claim? (host : String) (p : PathRule) : Option PathClaim :=
  p.backend.service.map fun service => ⟨host, p.location, PathType.effective p.pathType, service⟩

def HostRule.claims (r : HostRule) : List PathClaim :=
  r.paths.filterMap (PathRule.claim? r.hostname)

namespace RoutedIngress

def scope (r : RoutedIngress) : String := r.ingress.metadata.scopeText

def key (r : RoutedIngress) : String := r.ingress.metadata.resourceKey

def isCanary (r : RoutedIngress) : Bool := r.policy.canary.enabled

def owner (r : RoutedIngress) : Owner :=
  ⟨r.scope, r.ingress.metadata.anyName, r.policy.canary.declared⟩

def rules (r : RoutedIngress) : List HostRule := r.ingress.spec.ruleList

def defaultService (r : RoutedIngress) : Option ServiceRef := r.ingress.spec.defaultService

def pathClaims (r : RoutedIngress) : List PathClaim := r.rules.flatMap HostRule.claims

/-- All service references: the default backend's first, then those of the rules in order. -/
def serviceRefs (r : RoutedIngress) : List ServiceRef :=
  r.defaultService.toList ++ r.pathClaims.map (·.service)

def backendName (r : RoutedIngress) (service : ServiceRef) : String :=
  IngressPlane.backendName r.scope (some service)

end RoutedIngress

def primaries (resources : List RoutedIngress) : List RoutedIngress :=
  resources.filter (!·.isCanary)

/-- The ingresses that only shadow the backends of others, in order. -/
def canaries (resources : List RoutedIngress) : List RoutedIngress := resources.filter (·.isCanary)

end IngressPlane
