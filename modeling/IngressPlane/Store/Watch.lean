import IngressPlane.Certificate.Load
import IngressPlane.Store.Basic

/-!
Keeping the store current: objects are applied and deleted, and a reset applies a whole listing.
The certificate of a secret is loaded when the secret is applied and goes when the secret goes.
-/
namespace IngressPlane

inductive Kind
  | ingress
  | service
  | endpoints
  | secret
  deriving DecidableEq

def Kind.text : Kind → String
  | .ingress => "MultiClusterIngress"
  | .service => "Service"
  | .endpoints => "Endpoints"
  | .secret => "Secret"

inductive Watched
  | ingress (object : Ingress)
  | service (object : Service)
  | endpoints (object : Endpoints)
  | secret (object : Secret)

namespace Watched

def kind : Watched → Kind
  | .ingress _ => .ingress
  | .service _ => .service
  | .endpoints _ => .endpoints
  | .secret _ => .secret

def metadata : Watched → ObjectMeta
  | .ingress object => object.metadata
  | .service object => object.metadata
  | .endpoints object => object.metadata
  | .secret object => object.metadata

/-- The key under which the object is stored; an object without a name has none. -/
def key? (object : Watched) : Option String :=
  object.metadata.name.map fun name => object.metadata.scopeText ++ "/" ++ name

end Watched

namespace Store

def putSecret (store : Store) (key : String) (secret : Secret) : Store :=
  { store with
    secrets := store.secrets.insert key secret
    keyPairs :=
      match KeyPair.ofSecret key secret with
      | .ok (some keyPair) => store.keyPairs.insert key keyPair
      | _ => store.keyPairs.erase key }

def put (store : Store) (key : String) : Watched → Store
  | .ingress object => { store with ingresses := store.ingresses.insert key object }
  | .service object => { store with services := store.services.insert key object }
  | .endpoints object => { store with endpoints := store.endpoints.insert key object }
  | .secret object => store.putSecret key object

def insert? (store : Store) (object : Watched) : Option Store :=
  object.key?.map fun key => store.put key object

def remove (store : Store) (kind : Kind) (key : String) : Store :=
  match kind with
  | .ingress => { store with ingresses := store.ingresses.erase key }
  | .service => { store with services := store.services.erase key }
  | .endpoints => { store with endpoints := store.endpoints.erase key }
  | .secret =>
    { store with secrets := store.secrets.erase key, keyPairs := store.keyPairs.erase key }

def delete (store : Store) (kind : Kind) (scope name : String) : Store :=
  store.remove kind (scope ++ "/" ++ name)

/-- Applies objects up to the first one without a name, and says whether there was none. -/
def applyAll (store : Store) : List Watched → Store × Bool
  | [] => (store, true)
  | object :: rest =>
    match store.insert? object with
    | some store => store.applyAll rest
    | none => (store, false)

def deleteAll (store : Store) (kind : Kind) (removed : List (String × List String)) : Store :=
  (removed.flatMap fun (scope, names) => names.map fun name => (scope, name)).foldl
    (fun store (scope, name) => store.delete kind scope name) store

/-- Applies all objects of a listing, then deletes the removed names by namespace. -/
def reset (store : Store) (kind : Kind) (objects : List Watched)
    (removed : List (String × List String)) : Store × Bool :=
  match store.applyAll objects with
  | (store, true) => (store.deleteAll kind removed, true)
  | (store, false) => (store, false)

def metadataOf (store : Store) : Kind → List ObjectMeta
  | .ingress => store.ingresses.values.map (·.metadata)
  | .service => store.services.values.map (·.metadata)
  | .endpoints => store.endpoints.values.map (·.metadata)
  | .secret => store.secrets.values.map (·.metadata)

def count (store : Store) (kind : Kind) (scope : String) : Nat :=
  ((store.metadataOf kind).filter (·.scope = some scope)).length

end Store
end IngressPlane
