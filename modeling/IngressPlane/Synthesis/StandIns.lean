import IngressPlane.Store.Resolve
import IngressPlane.Synthesis.Draft

/-!
Stand-ins: a location may name a service of its own to serve it while its backend has no endpoints.
The backends of such services are added beside the others.
-/
namespace IngressPlane

def standInName (service : Service) : String :=
  "custom-default-backend-" ++ service.metadata.scopeText ++ "-" ++ service.metadata.anyName

def Store.standIn? (store : Store) (service : Service) : Option (String × List Endpoint) :=
  match (service.ports?.getD []).head? with
  | none => none
  | some port =>
    let key := service.metadata.scopeText ++ "/" ++ service.metadata.anyName
    match store.resolve key (.number port.port) with
    | .error _ => none
    | .ok [] => none
    | .ok endpoints => some (standInName service, endpoints)

def Location.standIn? (l : Location) (store : Store) : Option (String × List Endpoint) :=
  l.policy.defaultBackend.bind store.standIn?

/-- Records the stand-in of a location on `backend`, and routes it there if `backend` is empty. -/
def Location.standBy (l : Location) (store : Store) (backend : Backend) : Location :=
  if l.backend ≠ backend.name then l
  else
    match l.standIn? store with
    | none => l
    | some (name, _) =>
      { l with standIn := name, backend := if backend.endpoints.isEmpty then name else l.backend }

structure StandIns where
  added : Table Backend := .empty
  hosts : Table VirtualHost

def standInsFor (store : Store) (backend : Backend) (hosts : Table VirtualHost) : List Backend :=
  ((hosts.values.flatMap (·.locations)).filter (·.backend = backend.name)).filterMap fun l =>
    (l.standIn? store).map fun (name, endpoints) => { backend with name, endpoints }

def StandIns.step (store : Store) (s : StandIns) (backend : Backend) : StandIns :=
  if backend.name = defaultBackendName then s
  else
    { added := (standInsFor store backend s.hosts).foldl (fun t b => t.insertNew b.name b) s.added
      hosts := s.hosts.map fun h =>
        { h with locations := h.locations.map (·.standBy store backend) } }

def Draft.addStandIns (d : Draft) (store : Store) : Draft :=
  let s := d.backends.values.foldl (StandIns.step store) { hosts := d.hosts }
  { d with backends := d.backends.overlay s.added, hosts := s.hosts }

end IngressPlane
