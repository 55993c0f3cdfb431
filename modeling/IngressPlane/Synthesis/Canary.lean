import IngressPlane.Routing.RoutedIngress
import IngressPlane.Synthesis.Draft

/-!
Canaries: their backends become alternatives of the backends that they shadow. Canary backends that
become nobody's alternative are removed.
-/
namespace IngressPlane

/-- Where an alternative backend is to be attached: at all locations of a host, or at one path. -/
structure CanaryTarget where
  host : String
  path : Option (String × PathType)
  alternative : String
  deriving DecidableEq

namespace RoutedIngress

def canaryTargets (r : RoutedIngress) : List CanaryTarget :=
  (r.defaultService.toList.map fun service => ⟨catchAllHost, none, r.backendName service⟩)
    ++ r.pathClaims.map fun claim =>
      ⟨claim.host, some (claim.path, claim.pathType), r.backendName claim.service⟩

def isLegacyCanary (r : RoutedIngress) : Bool := r.policy.affinity.canaryBehavior = "legacy"

end RoutedIngress

def CanaryTarget.isAt (t : CanaryTarget) (l : Location) : Bool :=
  match t.path with
  | none => true
  | some key => l.key = key

/-- The locations in front of the first one that the alternative itself serves. -/
def CanaryTarget.reached (t : CanaryTarget) (locations : List Location) : List Location :=
  locations.takeWhile (·.backend ≠ t.alternative)

def CanaryTarget.primaries (t : CanaryTarget) (locations : List Location) : List String :=
  ((t.reached locations).filter t.isAt).map (·.backend)

def CanaryTarget.ownLocation? (t : CanaryTarget) (locations : List Location) : Option Location :=
  locations.find? (·.backend = t.alternative)

/-- The state of a merge: the canary backends seen, and those that have a use. -/
structure Merging where
  backends : Table Backend
  seen : List String := []
  kept : List String := []
  notes : List Diagnostic := []

def Backend.attach (b : Backend) (alternative : String) : Backend :=
  { b with alternatives := b.alternatives ++ [alternative] }

/-- Attaches an alternative to a primary backend. The alternative takes on the affinity of the
primary, unless it is a legacy canary. -/
def Merging.attach (legacy : Bool) (alternative : String) (m : Merging) (primary : String) : Merging :=
  match m.backends.get? primary with
  | none => m
  | some backend =>
    if backend.name = alternative || backend.noServer then m
    else if backend.alternatives.contains alternative then
      { m with kept := alternative :: m.kept }
    else
      let attached := m.backends.insert primary (backend.attach alternative)
      let backends := if legacy then attached
        else attached.modify alternative fun b => { b with affinity := backend.affinity }
      { m with backends, kept := alternative :: m.kept }

/-- Notes that an alternative serves a location itself, and so is kept. -/
def Merging.noteOwn (t : CanaryTarget) (locations : List Location) (m : Merging) : Merging :=
  match t.ownLocation? locations with
  | none => m
  | some l =>
    { m with
      kept := t.alternative :: m.kept
      notes := m.notes ++ [.canaryIsPrimary t.alternative t.host l.path] }

def Merging.target (hosts : Table VirtualHost) (m : Merging) (target : Bool × CanaryTarget) :
    Merging :=
  let t := target.2
  if !m.backends.contains t.alternative then m
  else
    let m := { m with seen := t.alternative :: m.seen }
    match hosts.get? t.host with
    | none => m
    | some host =>
      (t.primaries host.locations).foldl (Merging.attach target.1 t.alternative)
        (m.noteOwn t host.locations)

def removeCanary (backends : Table Backend) (name : String) : Table Backend × Bool :=
  match backends.get? name with
  | some b => if b.noServer then (backends.erase name, true) else (backends, false)
  | none => (backends, false)

def Merging.sweep (m : Merging) (name : String) : Merging :=
  let (backends, removed) := removeCanary m.backends name
  { m with backends, notes := if removed then m.notes ++ [.unmergedCanary name] else m.notes }

def allTargets (resources : List RoutedIngress) : List (Bool × CanaryTarget) :=
  (canaries resources).flatMap fun r => r.canaryTargets.map (r.isLegacyCanary, ·)

def mergeCanaries (resources : List RoutedIngress) (hosts : Table VirtualHost)
    (backends : Table Backend) : Merging :=
  let merged := (allTargets resources).foldl (Merging.target hosts) { backends }
  ((ascending merged.seen).filter fun name => !merged.kept.contains name).foldl Merging.sweep merged

/-- Removes the canary backends of all canaries, where there is nothing to shadow. -/
def pruneCanaries (resources : List RoutedIngress) (backends : Table Backend) : Table Backend :=
  (allTargets resources).foldl (fun backends target =>
    (removeCanary backends target.2.alternative).1) backends

/-- The canary stage: a merge where any primary ingress is there, and a removal otherwise. -/
def Draft.attachCanaries (d : Draft) (resources : List RoutedIngress) : Draft :=
  if (primaries resources).isEmpty then { d with backends := pruneCanaries resources d.backends }
  else
    let merged := mergeCanaries resources d.hosts d.backends
    { d with backends := merged.backends, notes := d.notes ++ merged.notes }

end IngressPlane
