import IngressPlane.Routing.Configuration
import IngressPlane.Synthesis.Draft

/-!
Hosts whose TLS connections are passed through: the backends behind their roots are marked, and one
entry is made for each host.
-/
namespace IngressPlane

def passthroughHosts (hosts : Table VirtualHost) : List VirtualHost :=
  hosts.values.filter (·.sslPassthrough)

def VirtualHost.roots (h : VirtualHost) : List Location := h.locations.filter (·.path = rootPath)

/-- The backends that pass connections through. The default backend never does. -/
def passthroughBackendNames (hosts : Table VirtualHost) : List String :=
  (((passthroughHosts hosts).flatMap (·.roots)).map (·.backend)).filter (· ≠ defaultBackendName)

def Draft.markPassthrough (d : Draft) : Draft :=
  { d with
    backends := (passthroughBackendNames d.hosts).foldl (fun backends name =>
      backends.modify name fun b => { b with sslPassthrough := true }) d.backends }

def VirtualHost.passthrough? (h : VirtualHost) : Option Passthrough :=
  h.roots.head?.map fun root => ⟨root.service, root.backend, h.hostname, root.port⟩

def passthroughs (hosts : Table VirtualHost) : List Passthrough :=
  (passthroughHosts hosts).filterMap (·.passthrough?)

end IngressPlane
