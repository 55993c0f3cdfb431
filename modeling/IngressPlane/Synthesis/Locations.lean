import IngressPlane.Synthesis.Draft
import IngressPlane.Synthesis.Hosts

/-!
Wiring: every path that a primary ingress claims becomes a location, the first claim of a path and
type winning. The backends that are wired take on the session affinity of their first claimant.
-/
namespace IngressPlane

def Location.ofClaim (r : RoutedIngress) (claim : PathClaim) (backend : Backend) : Location :=
  { Location.at claim.path claim.pathType backend.name with
    service := backend.service
    port := claim.service.portKey?
    owner := some r.owner
    policy := r.policy.forLocation }

/-- A fallback location that a claim has taken; the rest of it stays. -/
def Location.claimed (l : Location) (r : RoutedIngress) (claim : PathClaim) (backend : Backend) :
    Location :=
  { l with
    backend := backend.name
    service := backend.service
    port := claim.service.portKey?
    owner := some r.owner
    isFallback := false
    policy := r.policy.forLocation }

def replaceFirst {α : Type} (p : α → Bool) (f : α → α) : List α → List α
  | [] => []
  | x :: rest => if p x then f x :: rest else x :: replaceFirst p f rest

def PathClaim.isFor (claim : PathClaim) (l : Location) : Bool :=
  l.path = claim.path && l.pathType = claim.pathType

/-- Claims a path of a host. A location that a rule has already claimed stays as it is. -/
def VirtualHost.claim (h : VirtualHost) (r : RoutedIngress) (claim : PathClaim) (backend : Backend) :
    VirtualHost × List Diagnostic :=
  let redirects := h.redirectFromToWww || r.policy.redirect.fromToWww
  match h.locations.find? claim.isFor with
  | none =>
    ({ h with
       locations := h.locations ++ [.ofClaim r claim backend]
       redirectFromToWww := redirects }, [])
  | some l =>
    if l.isFallback then
      ({ h with
         locations := replaceFirst claim.isFor (·.claimed r claim backend) h.locations
         redirectFromToWww := redirects }, [])
    else (h, [.duplicateLocation claim.host claim.path l.backend r.key])

/-- The cookie of a backend, which the first cookie with a name sets. -/
def BackendCookie.adopt (c : BackendCookie) (cookie : AffinityCookie) : BackendCookie :=
  if c.name ≠ "" then c
  else
    { c with
      name := cookie.name
      expires := cookie.expires
      maxAge := cookie.maxAge
      secure := cookie.secure
      path := cookie.path
      sameSite := cookie.sameSite
      conditionalSameSiteNone := cookie.conditionalSameSiteNone
      changeOnFailure := cookie.changeOnFailure }

/-- Notes that a path sets the cookie under each of the names of its host. -/
def BackendCookie.addPath (c : BackendCookie) (names : List String) (path : String) : BackendCookie :=
  { c with
    locations := names.foldl (fun t name => t.insert name (((t.get? name).getD []) ++ [path]))
      c.locations }

def BackendAffinity.adopt (a : BackendAffinity) (policy : AffinityPolicy) (names : List String)
    (path : String) : BackendAffinity :=
  { kind := firstText a.kind policy.kind
    mode := firstText a.mode policy.mode
    cookie := if policy.kind = "cookie" then (a.cookie.adopt policy.cookie).addPath names path
      else a.cookie }

def allClaims (resources : List RoutedIngress) : List (RoutedIngress × PathClaim) :=
  (primaries resources).flatMap fun r => r.pathClaims.map (r, ·)

namespace Draft

/-- Wires one claimed path. Claims on hosts or backends that do not exist, or on canary backends,
come to nothing. -/
def wire (d : Draft) (claimed : RoutedIngress × PathClaim) : Draft :=
  let r := claimed.1
  let claim := claimed.2
  let hostname := if d.hosts.contains claim.host then claim.host else catchAllHost
  match d.hosts.get? hostname, d.backends.get? (r.backendName claim.service) with
  | some host, some backend =>
    if backend.noServer then d
    else
      let (host, notes) := host.claim r claim backend
      let affinity :=
        backend.affinity.adopt r.policy.affinity (claim.host :: host.aliases) claim.path
      { backends := d.backends.insert (r.backendName claim.service) { backend with affinity }
        hosts := d.hosts.insert hostname host
        notes := d.notes ++ notes }
  | _, _ => d

def addLocations (d : Draft) (resources : List RoutedIngress) : Draft :=
  (allClaims resources).foldl wire d

end Draft
end IngressPlane
