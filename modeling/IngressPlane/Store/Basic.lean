import IngressPlane.Certificate.Basic
import IngressPlane.Resource.Secret
import IngressPlane.Resource.Service
import IngressPlane.Routing.Endpoint
import IngressPlane.Routing.Settings

/-!
What is known of the cluster: the watched objects and the certificates loaded from secrets, each
under its `namespace/name` key.
-/
namespace IngressPlane

def defaultAnnotationPrefix : String := "nginx.ingress.kubernetes.io"

def defaultAuthDirectory : String := "/etc/ingress-controller/auth"

structure StoreOptions where
  annotationPrefix : String := defaultAnnotationPrefix
  authDirectory : String := defaultAuthDirectory
  settings : Settings := {}
  /-- The key of the certificate that is served when no other one applies. -/
  defaultCertificate : Option String := none

structure Store where
  options : StoreOptions
  ingresses : Table Ingress := .empty
  services : Table Service := .empty
  endpoints : Table Endpoints := .empty
  secrets : Table Secret := .empty
  keyPairs : Table KeyPair := .empty
  tcpServices : List StreamService := []
  udpServices : List StreamService := []

inductive LookupError
  | noService (key : String)
  | noSecret (key : String)
  | noCertificate (key : String)
  | noPorts (key : String)
  | noSpec (key : String)
  | noClusterAddress (key : String)
  | noBackendPort (key : String)
  | noPortNamed (key name : String)
  | portOutOfRange (key : String) (port : Int32)
  deriving DecidableEq

def LookupError.message : LookupError → String
  | .noService key => "service " ++ key ++ " not found"
  | .noSecret key => "secret " ++ key ++ " not found"
  | .noCertificate key => "local SSL certificate " ++ key ++ " was not found"
  | .noPorts key => "service " ++ key ++ " has no ports"
  | .noSpec key => "service " ++ key ++ " has no spec"
  | .noClusterAddress key => "no ClusterIP found for service " ++ key
  | .noBackendPort key => "backend of service " ++ key ++ " has no port"
  | .noPortNamed key name => "service " ++ key ++ " has no port named " ++ name
  | .portOutOfRange key port => "service " ++ key ++ " has an invalid port " ++ Text.decimal port.toInt

namespace Store

def withOptions (options : StoreOptions) : Store :=
  { options := { options with settings := options.settings.withChecksum } }

def settings (store : Store) : Settings := store.options.settings

def setSettings (store : Store) (settings : Settings) : Store :=
  { store with options := { store.options with settings := settings.withChecksum } }

def service (store : Store) (key : String) : Except LookupError Service :=
  match store.services.get? key with
  | some s => .ok s
  | none => .error (.noService key)

def secret (store : Store) (key : String) : Except LookupError Secret :=
  match store.secrets.get? key with
  | some s => .ok s
  | none => .error (.noSecret key)

def keyPair (store : Store) (key : String) : Except LookupError KeyPair :=
  match store.keyPairs.get? key with
  | some k => .ok k
  | none => .error (.noCertificate key)

theorem secret_eq_ok {store : Store} {key : String} {secret : Secret} :
    store.secret key = .ok secret ↔ store.secrets.get? key = some secret := by
  unfold Store.secret
  cases store.secrets.get? key <;> simp

theorem keyPair_eq_ok {store : Store} {key : String} {found : KeyPair} :
    store.keyPair key = .ok found ↔ store.keyPairs.get? key = some found := by
  unfold keyPair
  cases store.keyPairs.get? key <;> simp

def defaultKeyPair (store : Store) : Option KeyPair :=
  store.options.defaultCertificate.bind store.keyPairs.get?

def insertKeyPair (store : Store) (keyPair : KeyPair) : Store :=
  { store with keyPairs := store.keyPairs.insert keyPair.name keyPair }

def streamServices (store : Store) : Protocol → List StreamService
  | .tcp => store.tcpServices
  | .udp => store.udpServices

def setStreamServices (store : Store) : Protocol → List StreamService → Store
  | .tcp, services => { store with tcpServices := services }
  | .udp, services => { store with udpServices := services }

end Store
end IngressPlane
