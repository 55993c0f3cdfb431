import IngressPlane.Store.Listing
import IngressPlane.Synthesis.Backends
import IngressPlane.Synthesis.Canary
import IngressPlane.Synthesis.Expansion
import IngressPlane.Synthesis.Locations
import IngressPlane.Synthesis.Passthrough
import IngressPlane.Synthesis.StandIns

/-!
Synthesis: from the ingresses and what the store knows to the configuration of the data plane, by
stages, each a function of its own.
-/
namespace IngressPlane

structure Synthesized where
  /-- All hostnames and aliases, in ascending order. -/
  names : List String
  configuration : Configuration
  diagnostics : List Diagnostic

/-- The ingresses as they count, without snippets where the settings disallow them. -/
def admissible (settings : Settings) (resources : List RoutedIngress) : List RoutedIngress :=
  if settings.allowSnippets then resources
  else resources.map fun r => { r with policy := r.policy.withoutSnippets }

def VirtualHost.arrange (h : VirtualHost) : VirtualHost :=
  { h with locations := sortLocations (expandPrefixes h.locations) }

def Draft.arrange (d : Draft) : Draft := { d with hosts := d.hosts.map VirtualHost.arrange }

def servedNames (hosts : Table VirtualHost) : List String :=
  ascending (hosts.values.flatMap fun h => h.hostname :: h.aliases)

def streamSnippets (resources : List RoutedIngress) : List String :=
  (resources.map (·.policy.streamSnippet)).filter (· ≠ "")

namespace Store

variable (store : Store) (now : Instant) (defaultService : Option String)

/-- The backends, and the hosts with their fallback locations. -/
def built (resources : List RoutedIngress) : Draft :=
  let (fallback, fallbackNotes) := store.defaultBackend defaultService
  let (backends, backendNotes) := store.buildBackends resources fallback
  let (hosts, hostNotes) := store.buildHosts now resources backends fallback
  { backends, hosts, notes := fallbackNotes ++ backendNotes ++ hostNotes }

/-- With the locations of all claimed paths. -/
def wired (resources : List RoutedIngress) : Draft :=
  (store.built now defaultService resources).addLocations resources

/-- With the canaries attached to what they shadow. -/
def shadowed (resources : List RoutedIngress) : Draft :=
  (store.wired now defaultService resources).attachCanaries resources

/-- With everything in place, and the locations in the order in which they are tried. -/
def arranged (resources : List RoutedIngress) : Draft :=
  ((store.shadowed now defaultService resources).addStandIns store).markPassthrough.arrange

def configurationOf (resources : List RoutedIngress) (d : Draft) : Configuration :=
  { backends := d.backends.values
    hosts := d.hosts.values
    tcpServices := store.streamServices .tcp
    udpServices := store.streamServices .udp
    passthroughs := passthroughs d.hosts
    checksum := store.settings.checksum
    defaultKeyPair := store.defaultKeyPair
    streamSnippets := streamSnippets resources }

def synthesize (resources : List RoutedIngress) : Synthesized :=
  let counted := admissible store.settings resources
  let d := store.arranged now defaultService counted
  { names := servedNames d.hosts
    configuration := store.configurationOf counted d
    diagnostics := d.notes }

def synthesizeAll : Synthesized := store.synthesize now defaultService store.listing

end Store
end IngressPlane
