import IngressPlane.Proofs.Synthesis.Backends

/-! Which reference comes first: of the ingresses in order, the default service of each before the paths of its
rules. There is a backend for every name that is referred to, and it is the one that the first reference to the
name configures, whatever comes later (`buildBackends_first`). It has its port, its policy and its endpoints from
that reference (`Backend.IsConfiguredBy`). -/
namespace IngressPlane

variable {r : RoutedIngress} {service : ServiceRef} {name : String} {resources : List RoutedIngress}
  {reference : RoutedIngress × ServiceRef}

namespace RoutedIngress

def paths (r : RoutedIngress) : List PathRule := r.rules.flatMap HostRule.paths

/-- Whether an ingress refers to a service, as its default one or by a path. -/
def RefersTo (r : RoutedIngress) (service : ServiceRef) : Prop :=
  r.defaultService = some service ∨ ∃ path ∈ r.paths, path.backend.service = some service

inductive FirstRef (r : RoutedIngress) (name : String) (service : ServiceRef) : Prop
  | byDefault (hservice : r.defaultService = some service) (hname : r.backendName service = name)
  /-- From a path, where neither the default service nor an earlier path refers to the backend. -/
  | byPath {before after : List PathRule} {path : PathRule} (hpaths : r.paths = before ++ path :: after)
      (hservice : path.backend.service = some service) (hname : r.backendName service = name)
      (hdefault : ∀ s, r.defaultService = some s → r.backendName s ≠ name)
      (hearlier : ∀ p ∈ before, ∀ s, p.backend.service = some s → r.backendName s ≠ name)

theorem serviceRefs_eq (r : RoutedIngress) :
    r.serviceRefs = r.defaultService.toList ++ r.paths.filterMap (·.backend.service) := by
  have hclaims (rule : HostRule) : rule.claims.map (·.service) = rule.paths.filterMap (·.backend.service) := by
    rw [HostRule.claims, List.map_filterMap]
    refine congrArg (rule.paths.filterMap ·) (funext fun p => ?_)
    simp [PathRule.claim?, Function.comp_def]
  unfold serviceRefs pathClaims paths
  rw [List.map_flatMap, List.filterMap_flatMap]
  simp only [hclaims]

theorem mem_serviceRefs : service ∈ r.serviceRefs ↔ r.RefersTo service := by
  simp [serviceRefs_eq, RefersTo]

theorem find?_services {paths : List PathRule} {p : ServiceRef → Bool} :
    (paths.filterMap (·.backend.service)).find? p = some service ↔ p service = true ∧
      ∃ before path after, paths = before ++ path :: after ∧ path.backend.service = some service ∧
        ∀ e ∈ before, ∀ s, e.backend.service = some s → p s = false := by
  rw [List.find?_filterMap, Option.bind_eq_some_iff]
  simp only [List.find?_eq_some_iff_append, Bool.not_eq_true', Option.any_eq_false]
  constructor
  · rintro ⟨path, ⟨hp, before, after, hpaths, hearlier⟩, hservice⟩
    rw [hservice] at hp
    exact ⟨hp, before, path, after, hpaths, hservice, hearlier⟩
  · rintro ⟨hp, before, path, after, hpaths, hservice, hearlier⟩
    exact ⟨path, ⟨by rw [hservice]; exact hp, before, after, hpaths, hearlier⟩, hservice⟩

theorem find?_serviceRefs :
    r.serviceRefs.find? (r.backendName · = name) = some service ↔ r.FirstRef name service := by
  have hdefault : r.defaultService.toList.find? (r.backendName · = name) = some service ↔
      r.backendName service = name ∧ r.defaultService = some service := by
    cases r.defaultService with
    | none => simp
    | some s =>
      rw [Option.toList_some, List.find?_singleton, Option.ite_none_right_eq_some, decide_eq_true_iff]
      exact and_congr_left fun hs => by rw [Option.some.inj hs]
  have hnone : r.defaultService.toList.find? (r.backendName · = name) = none ↔
      ∀ s, r.defaultService = some s → r.backendName s ≠ name := by
    simp [List.find?_eq_none]
  rw [serviceRefs_eq, List.find?_append, Option.or_eq_some_iff, hdefault, hnone, find?_services]
  simp only [decide_eq_true_iff, decide_eq_false_iff_not]
  constructor
  · rintro (⟨hname, hservice⟩ | ⟨hnot, hname, before, path, after, hpaths, hservice, hearlier⟩)
    · exact .byDefault hservice hname
    · exact .byPath hpaths hservice hname hnot hearlier
  · intro h
    cases h with
    | byDefault hservice hname => exact .inl ⟨hname, hservice⟩
    | byPath hpaths hservice hname hnot hearlier =>
      exact .inr ⟨hnot, hname, _, _, _, hpaths, hservice, hearlier⟩

end RoutedIngress

/-- The first reference to a backend of this name that ingresses make: the first one of an ingress, where no
ingress in front of that refers to the backend. -/
def FirstReference (resources : List RoutedIngress) (name : String)
    (reference : RoutedIngress × ServiceRef) : Prop :=
  ∃ before after, resources = before ++ reference.1 :: after ∧ reference.1.FirstRef name reference.2 ∧
    ∀ earlier ∈ before, ∀ s, earlier.RefersTo s → earlier.backendName s ≠ name

theorem find?_allReferences : (allReferences resources).find? (referenceName · = name) = some reference ↔
    FirstReference resources name reference := by
  have hone (r : RoutedIngress) : (r.serviceRefs.map (r, ·)).find? (referenceName · = name) =
      (r.serviceRefs.find? (r.backendName · = name)).map (r, ·) := by
    rw [List.find?_map]
    rfl
  have hnone (r : RoutedIngress) : (r.serviceRefs.find? (r.backendName · = name)).map (Prod.mk r) = none ↔
      ∀ s, r.RefersTo s → r.backendName s ≠ name := by
    simp [List.find?_eq_none, RoutedIngress.mem_serviceRefs]
  obtain ⟨first, service⟩ := reference
  unfold allReferences FirstReference
  rw [List.find?_flatMap, List.findSome?_eq_some_iff]
  simp only [hone, hnone, Option.map_eq_some_iff, Prod.mk.injEq, RoutedIngress.find?_serviceRefs]
  constructor
  · rintro ⟨before, r, after, hresources, ⟨s, hfirst, rfl, rfl⟩, hearlier⟩
    exact ⟨before, after, hresources, hfirst, hearlier⟩
  · rintro ⟨before, after, hresources, hfirst, hearlier⟩
    exact ⟨before, first, after, hresources, ⟨service, hfirst, rfl, rfl⟩, hearlier⟩

/-- The service of a reference: the one that stands for its name in the namespace of the ingress. -/
def referenceKey (reference : RoutedIngress × ServiceRef) : String :=
  reference.1.scope ++ "/" ++ derivedServiceName reference.2.name

namespace Backend

variable {store : Store}

inductive EndpointsOf (store : Store) (reference : RoutedIngress × ServiceRef) : List Endpoint → Prop
  /-- The address of the service in the cluster, where the policy asks for it and there is one. -/
  | atCluster {endpoint : Endpoint} (hasked : reference.1.policy.viaCluster = true)
      (hresolved : store.resolveCluster (referenceKey reference) (some reference.2) = .ok endpoint) :
      EndpointsOf store reference [endpoint]
  /-- Else those of the pods behind the port. -/
  | atPods {port : PortKey} {endpoints : List Endpoint}
      (helse : reference.1.policy.viaCluster = true → ∀ endpoint,
        store.resolveCluster (referenceKey reference) (some reference.2) ≠ .ok endpoint)
      (hport : reference.2.portKey? = some port)
      (hresolved : store.resolve (referenceKey reference) port = .ok endpoints) :
      EndpointsOf store reference endpoints
  | nowhere (helse : reference.1.policy.viaCluster = true → ∀ endpoint,
        store.resolveCluster (referenceKey reference) (some reference.2) ≠ .ok endpoint)
      (hpods : ∀ port, reference.2.portKey? = some port → ∀ endpoints,
        store.resolve (referenceKey reference) port ≠ .ok endpoints) :
      EndpointsOf store reference []

/-- What a backend has that a reference configures: what the policy of the ingress says and what the store knows of
the service. Whatever locations add to a backend is not there yet. -/
structure IsConfiguredBy (b : Backend) (store : Store) (reference : RoutedIngress × ServiceRef) : Prop where
  name : b.name = referenceName reference
  service : b.service = store.services.get? (referenceKey reference)
  port : b.port = reference.2.portKey?
  endpoints : EndpointsOf store reference b.endpoints
  hashBy : b.hashBy = reference.1.policy.hashBy
  loadBalancing : b.loadBalancing =
    if reference.1.policy.loadBalancing = "" then store.settings.loadBalancing
    else reference.1.policy.loadBalancing
  noServer : b.noServer = reference.1.policy.canary.enabled
  shaping : let canary := reference.1.policy.canary
    b.shaping = if canary.enabled then
        { weight := canary.weight
          weightTotal := canary.weightTotal
          header := canary.header
          headerValue := canary.headerValue
          headerPattern := canary.headerPattern
          cookie := canary.cookie }
      else {}
  untouched : b.affinity = {} ∧ b.alternatives = [] ∧ b.sslPassthrough = false

theorem endpointsOf_configured (store : Store) (reference : RoutedIngress × ServiceRef) :
    EndpointsOf store reference (configured store reference).endpoints := by
  have hpods (helse : reference.1.policy.viaCluster = true → ∀ endpoint,
      store.resolveCluster (referenceKey reference) (some reference.2) ≠ .ok endpoint) :
      EndpointsOf store reference
        (podEndpoints store (referenceName reference) (referenceKey reference) reference.2.portKey?).1 := by
    unfold podEndpoints
    cases hport : reference.2.portKey? with
    | none => exact .nowhere helse fun port h => by rw [hport] at h; cases h
    | some port =>
      dsimp only
      cases hresolved : store.resolve (referenceKey reference) port with
      | ok endpoints => exact .atPods helse hport hresolved
      | error _ =>
        refine .nowhere helse fun port' h endpoints => ?_
        rw [hport] at h
        cases h
        rw [hresolved]
        exact nofun
  have hheld : (configured store reference).endpoints =
      if (clusterEndpoints store reference.1.policy (referenceKey reference) reference.2).1.isEmpty then
        (podEndpoints store (referenceName reference) (referenceKey reference) reference.2.portKey?).1
      else (clusterEndpoints store reference.1.policy (referenceKey reference) reference.2).1 :=
    apply_ite Prod.fst _ _ _
  rw [hheld]
  unfold clusterEndpoints
  cases hasked : reference.1.policy.viaCluster with
  | false => exact hpods fun h => by rw [hasked] at h; cases h
  | true =>
    cases hresolved : store.resolveCluster (referenceKey reference) (some reference.2) with
    | ok endpoint => exact .atCluster hasked hresolved
    | error _ => exact hpods fun _ endpoint => by rw [hresolved]; exact nofun

theorem isConfiguredBy_configured (store : Store) (reference : RoutedIngress × ServiceRef) :
    (configured store reference).IsConfiguredBy store reference where
  name := rfl
  service := by
    unfold configured ofReference Store.service
    cases hservice : store.services.get? (referenceKey reference) with
    | some service =>
      rw [referenceKey] at hservice
      simp only [hservice]
    | none =>
      rw [referenceKey] at hservice
      simp only [hservice]
  port := rfl
  endpoints := endpointsOf_configured store reference
  hashBy := rfl
  loadBalancing := rfl
  noServer := rfl
  shaping := rfl
  untouched := ⟨rfl, rfl, rfl⟩

end Backend

namespace Store

variable {store : Store} {fallback : Backend}

theorem contains_buildBackends : (store.buildBackends resources fallback).1.contains name ↔
    name = fallback.name ∨ ∃ r ∈ resources, ∃ service, r.RefersTo service ∧ r.backendName service = name := by
  unfold Table.contains
  rw [get?_buildBackends]
  split
  next hname => simp [hname]
  next hname =>
    simp only [Option.isSome_map, List.find?_isSome, decide_eq_true_iff, Prod.exists, mem_allReferences,
      RoutedIngress.mem_serviceRefs, and_assoc, exists_and_left, Ne.symm hname, false_or]
    rfl

/-- What is built is the default backend, or configured by the first reference to its name. -/
theorem get?_buildBackends_eq_some {backend : Backend} :
    (store.buildBackends resources fallback).1.get? name = some backend ↔
      name = fallback.name ∧ backend = fallback ∨ name ≠ fallback.name ∧
        ∃ reference, FirstReference resources name reference ∧ backend = Backend.configured store reference := by
  rw [get?_buildBackends]
  split
  next hname => simp [hname, eq_comm]
  next hname =>
    rw [Option.map_eq_some_iff]
    simp only [find?_allReferences, Ne.symm hname, ne_eq, false_and, not_false_iff, true_and, false_or,
      @eq_comm _ backend]

/-- The backends that ingresses refer to, and the default one. Those of more ingresses are added where there is
none of their name yet, and each has its name. A name that is not the default backend's has the backend that
the first reference to it configures, with what the policy and the store say at that reference, and only names that
are referred to have one. -/
theorem buildBackends_first (store : Store) (resources more : List RoutedIngress) (fallback : Backend) :
    let built (resources : List RoutedIngress) := (store.buildBackends resources fallback).1
    (∀ name, (built (resources ++ more)).get? name =
      ((built resources).get? name).or ((built more).get? name)) ∧
    (∀ name, (built resources).contains name ↔ name = fallback.name ∨
      ∃ r ∈ resources, ∃ service, r.RefersTo service ∧ r.backendName service = name) ∧
    (∀ name backend, (built resources).get? name = some backend → backend.name = name) ∧
    (∀ name backend, (built resources).get? name = some backend ↔ name = fallback.name ∧ backend = fallback ∨
      name ≠ fallback.name ∧ ∃ reference, FirstReference resources name reference ∧
        backend = Backend.configured store reference) ∧
    ∀ reference, (Backend.configured store reference).IsConfiguredBy store reference :=
  ⟨store.get?_buildBackends_append resources more fallback, fun _ => contains_buildBackends,
    store.buildBackends_named resources fallback, fun _ _ => get?_buildBackends_eq_some,
    Backend.isConfiguredBy_configured store⟩

end Store
end IngressPlane
