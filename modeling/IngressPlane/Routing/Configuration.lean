import IngressPlane.Routing.Backend
import IngressPlane.Routing.Settings
import IngressPlane.Routing.VirtualHost
import IngressPlane.Json.Printer

/-!
The complete configuration of the data plane, and the JSON document it is rendered to.
-/
namespace IngressPlane

/-- Hands the TLS connections of a host to a backend without ending them. -/
structure Passthrough where
  service : Option Service
  backend : String
  hostname : String
  port : Option PortKey
  deriving DecidableEq

structure Configuration where
  /-- In ascending order of names. -/
  backends : List Backend := []
  /-- In ascending order of hostnames. -/
  hosts : List VirtualHost := []
  tcpServices : List StreamService := []
  udpServices : List StreamService := []
  passthroughs : List Passthrough := []
  checksum : String := ""
  defaultKeyPair : Option KeyPair := none
  streamSnippets : List String := []
  deriving DecidableEq

def Passthrough.toJson (p : Passthrough) : Json :=
  .object [
    ("service", .option Service.toJson p.service),
    ("backend", .string p.backend),
    ("hostname", .string p.hostname),
    ("port", .option PortKey.toJson p.port)]

namespace Configuration

def locations (c : Configuration) : List Location := c.hosts.flatMap (·.locations)

def toJson (c : Configuration) : Json :=
  .object [
    ("backends", .list Backend.toJson c.backends),
    ("servers", .list VirtualHost.toJson c.hosts),
    ("tcpEndpoints", .list StreamService.toJson c.tcpServices),
    ("udpEndpoints", .list StreamService.toJson c.udpServices),
    ("passthroughBackends", .list Passthrough.toJson c.passthroughs),
    ("backendConfigChecksum", .string c.checksum),
    ("defaultSslCertificate", .option KeyPair.toJson c.defaultKeyPair),
    ("streamSnippets", .strings c.streamSnippets)]

def document (settings : Settings) (c : Configuration) : Json :=
  .object [("backendConfig", settings.toJson), ("configuration", c.toJson)]

def render (settings : Settings) (c : Configuration) : String := (document settings c).pretty

def ownerKeys (c : Configuration) : List String :=
  ascending ((c.locations.filterMap (·.owner)).map fun o => o.scope ++ "/" ++ o.name)

def removedOwners (previous next : Configuration) : List String :=
  let remaining := next.ownerKeys
  previous.ownerKeys.filter fun key => !remaining.contains key

end Configuration
end IngressPlane
