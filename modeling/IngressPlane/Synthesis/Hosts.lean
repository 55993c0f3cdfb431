import IngressPlane.Routing.Backend
import IngressPlane.Routing.RoutedIngress
import IngressPlane.Synthesis.Certificates

/-!
The virtual hosts: the catch-all host and one for each hostname of a rule. What several ingresses
set for one host, the first of them sets; later values that differ are reported.
-/
namespace IngressPlane

def firstText (slot value : String) : String := if slot = "" then value else slot

/-- Whether a value is kept out by a different one. -/
def conflicts {α : Type} [DecidableEq α] (none slot value : α) : Bool :=
  value ≠ none && slot ≠ none && slot ≠ value

namespace VirtualHost

def catchAll (store : Store) (fallback : Backend) : VirtualHost :=
  { hostname := catchAllHost
    keyPair := store.defaultKeyPair
    locations := [
      { Location.at rootPath .under fallback.name with
        isFallback := true
        service := fallback.service
        policy := { logs := { access := store.settings.defaultBackendAccessLog } } }] }

/-- A host whose root goes to a fallback until a rule takes it. -/
def ofRule (resource : RoutedIngress) (host fallback : String) : VirtualHost :=
  { hostname := host
    sslPassthrough := resource.policy.sslPassthrough
    ciphers := resource.policy.ciphers.ciphers
    preferServerCiphers := resource.policy.ciphers.preferServerCiphers
    locations := [
      { Location.at rootPath .under fallback with
        isFallback := true
        owner := some resource.owner
        policy := resource.policy.forLocation }] }

end VirtualHost

namespace RoutedIngress

def ownFallback? (r : RoutedIngress) (backends : Table Backend) : Option Backend :=
  r.defaultService.bind fun service => backends.get? (r.backendName service)

end RoutedIngress

/-- Gives a location to an ingress. The redirect and the path mapping of the location stay. -/
def Location.takeOver (l : Location) (r : RoutedIngress) (backend : Backend) : Location :=
  { l with
    backend := backend.name
    service := backend.service
    owner := some r.owner
    isFallback := false
    policy := { r.policy.forLocation with redirect := l.policy.redirect, mapping := l.policy.mapping } }

/-- An ingress without rules takes the root of the catch-all host, if no other one has. -/
def VirtualHost.takeRoot (h : VirtualHost) (r : RoutedIngress) (backend : Backend) : VirtualHost :=
  match h.locations with
  | [] => h
  | root :: rest =>
    if root.isFallback then { h with locations := root.takeOver r backend :: rest } else h

def openHosts (backends : Table Backend) (fallback : Backend) (hosts : Table VirtualHost)
    (r : RoutedIngress) : Table VirtualHost :=
  let own := r.ownFallback? backends
  let hosts := match own with
    | some backend =>
      if r.rules.isEmpty then hosts.modify catchAllHost (·.takeRoot r backend) else hosts
    | none => hosts
  let target := (own.map (·.name)).getD fallback.name
  r.rules.foldl (fun hosts rule =>
    hosts.insertNew rule.hostname (.ofRule r rule.hostname target)) hosts

def ruleHosts (resources : List RoutedIngress) : List (RoutedIngress × String) :=
  (primaries resources).flatMap fun r => r.rules.map fun rule => (r, rule.hostname)

def VirtualHost.merge (h : VirtualHost) (policy : Policy) : VirtualHost :=
  { h with
    aliases := if h.aliases.isEmpty then policy.aliases else h.aliases
    snippet := firstText h.snippet policy.serverSnippet
    ciphers := firstText h.ciphers policy.ciphers.ciphers
    preferServerCiphers := firstText h.preferServerCiphers policy.ciphers.preferServerCiphers }

def VirtualHost.mergeNotes (h : VirtualHost) (r : RoutedIngress) : List Diagnostic :=
  (if conflicts [] h.aliases r.policy.aliases then [.aliasConflict h.hostname r.key] else [])
    ++ (if conflicts "" h.snippet r.policy.serverSnippet then [.snippetConflict h.hostname r.key]
        else [])

/-- Chooses the certificate of a host that has none, if the ingress has a TLS section. -/
def VirtualHost.certify (h : VirtualHost) (store : Store) (now : Instant) (r : RoutedIngress) :
    VirtualHost × List Diagnostic :=
  if h.keyPair.isSome || r.ingress.spec.tlsList.isEmpty then (h, [])
  else
    let (keyPair, notes) := store.certificateFor now h.hostname r.ingress
    ({ h with keyPair }, notes)

def mergeRule (store : Store) (now : Instant) (merged : Table VirtualHost × List Diagnostic)
    (rule : RoutedIngress × String) : Table VirtualHost × List Diagnostic :=
  match merged.1.get? rule.2 with
  | none => merged
  | some host =>
    let (certified, notes) := (host.merge rule.1.policy).certify store now rule.1
    (merged.1.insert rule.2 certified, merged.2 ++ host.mergeNotes rule.1 ++ notes)

/-- Drops the aliases that are hostnames, and repeated ones. -/
def VirtualHost.dropHostAliases (hostnames : List String) (h : VirtualHost) : VirtualHost :=
  { h with aliases := ascending (h.aliases.filter fun name => !hostnames.contains name) }

def Store.buildHosts (store : Store) (now : Instant) (resources : List RoutedIngress)
    (backends : Table Backend) (fallback : Backend) : Table VirtualHost × List Diagnostic :=
  let opened := (primaries resources).foldl (openHosts backends fallback)
    (Table.empty.insert catchAllHost (.catchAll store fallback))
  let (merged, notes) := (ruleHosts resources).foldl (mergeRule store now) (opened, [])
  (merged.map (·.dropHostAliases merged.keys), notes)

end IngressPlane
