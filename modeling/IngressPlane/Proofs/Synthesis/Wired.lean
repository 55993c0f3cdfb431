import IngressPlane.Proofs.Synthesis.Wiring
import IngressPlane.Synthesis.Synthesize

/-! The wired draft of a store: its hosts and locations in terms of the claims (`locationsAt?_wired`),
where its backends come from, and that each of its locations leads to one of them. -/
namespace IngressPlane

variable {resources : List RoutedIngress}

theorem mem_primaries {r : RoutedIngress} :
    r ∈ primaries resources ↔ r ∈ resources ∧ r.isCanary = false := by simp [primaries]

theorem mem_canaries {r : RoutedIngress} :
    r ∈ canaries resources ↔ r ∈ resources ∧ r.isCanary = true := by simp [canaries]

theorem mem_ruleHosts {rule : RoutedIngress × String} : rule ∈ ruleHosts resources ↔
    rule.1 ∈ primaries resources ∧ rule.2 ∈ rule.1.hostnames := by
  simp only [ruleHosts_eq, List.mem_flatMap, List.mem_map]
  constructor
  · rintro ⟨r, hr, host, hhost, rfl⟩
    exact ⟨hr, hhost⟩
  · rintro ⟨hr, hhost⟩
    exact ⟨rule.1, hr, rule.2, hhost, rfl⟩

theorem mem_allClaims {claimed : RoutedIngress × PathClaim} :
    claimed ∈ allClaims resources ↔
      claimed.1 ∈ primaries resources ∧ claimed.2 ∈ claimed.1.pathClaims := by
  obtain ⟨r, claim⟩ := claimed
  simp only [allClaims, List.mem_flatMap, List.mem_map, Prod.mk.injEq]
  constructor
  · rintro ⟨r', hr, claim', hclaim, rfl, rfl⟩
    exact ⟨hr, hclaim⟩
  · rintro ⟨hr, hclaim⟩
    exact ⟨r, hr, claim, hclaim, rfl, rfl⟩

namespace RoutedIngress

theorem host_mem_hostnames {r : RoutedIngress} {claim : PathClaim} (h : claim ∈ r.pathClaims) :
    claim.host ∈ r.hostnames := by
  obtain ⟨rule, hrule, hclaim⟩ := List.mem_flatMap.1 h
  obtain ⟨path, _, hpath⟩ := List.mem_filterMap.1 hclaim
  obtain ⟨service, _, rfl⟩ := Option.map_eq_some_iff.1 hpath
  exact List.mem_map.2 ⟨rule, hrule, rfl⟩

theorem service_mem_serviceRefs {r : RoutedIngress} {claim : PathClaim} (h : claim ∈ r.pathClaims) :
    claim.service ∈ r.serviceRefs :=
  List.mem_append_right _ (List.mem_map.2 ⟨claim, h, rfl⟩)

theorem defaultService_mem_serviceRefs {r : RoutedIngress} {service : ServiceRef}
    (h : r.defaultService = some service) : service ∈ r.serviceRefs :=
  List.mem_append_left _ (by simp [h])

end RoutedIngress

namespace Store

variable (store : Store) (now : Instant) (defaultService : Option String)
  (resources : List RoutedIngress)

theorem built_backends : (store.built now defaultService resources).backends =
    (store.buildBackends resources (store.fallback defaultService)).1 := rfl

theorem locationsAt?_built (host : String) :
    locationsAt? (store.built now defaultService resources).hosts host =
      locationsAt? (openedHosts store resources (store.built now defaultService resources).backends
        (store.fallback defaultService)) host :=
  locationsAt?_buildHosts store now resources _ _ host

theorem contains_built_hosts (host : String) :
    (store.built now defaultService resources).hosts.contains host =
      (decide (host = catchAllHost) || decide (∃ r ∈ primaries resources, host ∈ r.hostnames)) := by
  rw [← isSome_locationsAt?, locationsAt?_built, isSome_locationsAt?, contains_openedHosts]

variable {resources}

theorem contains_built_of_claim {claimed : RoutedIngress × PathClaim} (h : claimed ∈ allClaims resources) :
    (store.built now defaultService resources).hosts.contains claimed.2.host := by
  obtain ⟨hr, hclaim⟩ := mem_allClaims.1 h
  rw [contains_built_hosts, Bool.or_eq_true]
  exact .inr (decide_eq_true ⟨claimed.1, hr, RoutedIngress.host_mem_hostnames hclaim⟩)

theorem targetHost_built {claimed : RoutedIngress × PathClaim} (h : claimed ∈ allClaims resources) :
    (store.built now defaultService resources).targetHost claimed.2 = claimed.2.host :=
  if_pos (contains_built_of_claim store now defaultService h)

variable (resources)

theorem locationsAt?_wired (host : String) :
    locationsAt? (store.wired now defaultService resources).hosts host =
      (locationsAt? (openedHosts store resources (store.built now defaultService resources).backends
          (store.fallback defaultService)) host).map
        (((allClaims resources).filter (·.2.host = host)).foldl
          (placeClaim (store.built now defaultService resources).backends)) := by
  have hfilter : (allClaims resources).filter
        (fun claimed => (store.built now defaultService resources).targetHost claimed.2 = host) =
      (allClaims resources).filter (·.2.host = host) :=
    List.filter_congr fun claimed hclaimed => by rw [targetHost_built store now defaultService hclaimed]
  rw [wired, Draft.addLocations, Draft.locationsAt?_foldl_wire, hfilter, locationsAt?_built]

theorem contains_wired_hosts (host : String) :
    (store.wired now defaultService resources).hosts.contains host =
      (store.built now defaultService resources).hosts.contains host :=
  List.foldlRecOn (motive := fun d : Draft =>
    d.hosts.contains host = (store.built now defaultService resources).hosts.contains host) _ _ rfl
    fun d hd claimed _ => (Draft.contains_wire d claimed host).trans hd

theorem wired_bare : (store.wired now defaultService resources).backends.map Backend.bare =
    (store.built now defaultService resources).backends.map Backend.bare :=
  Draft.foldl_wire_bare _ _

theorem wired_backends_named :
    (store.wired now defaultService resources).backends.Named Backend.name := by
  refine Table.Named.of_map (f := Backend.bare) (fun _ => rfl) ?_
  rw [wired_bare]
  exact (buildBackends_named store resources _).map fun _ => rfl

theorem wired_hosts_named :
    (store.wired now defaultService resources).hosts.Named VirtualHost.hostname :=
  List.foldlRecOn (motive := fun d => d.hosts.Named VirtualHost.hostname) _ Draft.wire
    (buildHosts_named store now resources _ _) fun _ h claimed _ => Draft.wire_hosts_named h claimed

variable {store now defaultService resources}

theorem built_backend_cases {name : String} {backend : Backend}
    (h : (store.built now defaultService resources).backends.get? name = some backend) :
    (name = defaultBackendName ∧ backend = store.fallback defaultService) ∨
      ∃ reference ∈ allReferences resources, referenceName reference = name ∧
        backend = Backend.configured store reference := by
  rw [built_backends] at h
  rcases buildBackends_cases h with ⟨hname, hb⟩ | hreference
  · exact .inl ⟨by rw [← hname, (store.fallback_spec defaultService).1], hb⟩
  · exact .inr hreference

theorem wired_backend {name : String} {backend : Backend}
    (h : (store.wired now defaultService resources).backends.get? name = some backend) :
    ∃ b, (store.built now defaultService resources).backends.get? name = some b ∧
      b.bare = backend.bare :=
  Table.get?_of_map_eq (store.wired_bare now defaultService resources) h

theorem wired_contains (name : String) :
    (store.wired now defaultService resources).backends.contains name =
      (store.built now defaultService resources).backends.contains name := by
  rw [← Table.contains_map Backend.bare, wired_bare, Table.contains_map]

theorem wired_alternatives {name : String} {backend : Backend}
    (h : (store.wired now defaultService resources).backends.get? name = some backend) :
    backend.alternatives = [] := by
  obtain ⟨b, hb, hbare⟩ := wired_backend h
  have halternatives : b.alternatives = backend.alternatives := by
    simpa using congrArg Backend.alternatives hbare
  rw [← halternatives]
  rcases built_backend_cases hb with ⟨_, rfl⟩ | ⟨_, _, _, rfl⟩
  · exact (store.fallback_spec defaultService).2.2
  · rfl

theorem wired_noServer {name : String} {backend : Backend}
    (h : (store.wired now defaultService resources).backends.get? name = some backend)
    (hcanary : backend.noServer) :
    ∃ r ∈ canaries resources, ∃ service ∈ r.serviceRefs, r.backendName service = name := by
  obtain ⟨b, hb, hbare⟩ := wired_backend h
  have hserver : b.noServer = backend.noServer := by simpa using congrArg Backend.noServer hbare
  rw [← hserver] at hcanary
  rcases built_backend_cases hb with ⟨_, rfl⟩ | ⟨reference, hmem, hname, rfl⟩
  · simp [(store.fallback_spec defaultService).2.1] at hcanary
  · obtain ⟨hr, hservice⟩ := mem_allReferences.1 hmem
    exact ⟨reference.1, mem_canaries.2 ⟨hr, hcanary⟩, reference.2, hservice, hname⟩

theorem built_contains_fallback :
    (store.built now defaultService resources).backends.contains (store.fallback defaultService).name :=
  buildBackends_contains_fallback

theorem ownFallback?_name {r : RoutedIngress} (hr : r ∈ resources) :
    (r.ownFallback? (store.built now defaultService resources).backends).map Backend.name =
      r.defaultService.map r.backendName := by
  unfold RoutedIngress.ownFallback?
  cases hservice : r.defaultService with
  | none => rfl
  | some service =>
    have href : (r, service) ∈ allReferences resources :=
      mem_allReferences.2 ⟨hr, RoutedIngress.defaultService_mem_serviceRefs hservice⟩
    have hthere : (store.built now defaultService resources).backends.contains (r.backendName service) :=
      buildBackends_contains href
    obtain ⟨backend, hbackend⟩ := Table.contains_iff.1 hthere
    have hname : backend.name = r.backendName service :=
      buildBackends_named store resources _ _ backend hbackend
    rw [Option.bind_some, hbackend, Option.map_some, Option.map_some, hname]

theorem ownFallback?_built {r : RoutedIngress} (hr : r ∈ resources) :
    (r.ownFallback? (store.built now defaultService resources).backends).isSome =
      r.defaultService.isSome := by
  have hname : (r.ownFallback? (store.built now defaultService resources).backends).map Backend.name =
      r.defaultService.map r.backendName := ownFallback?_name hr
  simpa using congrArg Option.isSome hname

theorem contains_of_built {name : String} {backend : Backend}
    (h : (store.built now defaultService resources).backends.get? name = some backend) :
    (store.wired now defaultService resources).backends.contains backend.name := by
  rw [wired_contains, buildBackends_named store resources _ name backend h]
  exact Table.contains_iff.2 ⟨backend, h⟩

theorem contains_fallbackName (r : RoutedIngress) :
    (store.wired now defaultService resources).backends.contains
      (r.fallbackName (store.built now defaultService resources).backends
        (store.fallback defaultService)) := by
  unfold RoutedIngress.fallbackName
  cases hown : r.ownFallback? (store.built now defaultService resources).backends with
  | none => rw [wired_contains]; exact built_contains_fallback
  | some backend =>
    obtain ⟨service, _, hget⟩ := Option.bind_eq_some_iff.1 hown
    exact contains_of_built hget

/-- Each location leads to a backend that is there, and has no stand-in yet. -/
theorem allLocations_wired : AllLocations
    (fun l => (store.wired now defaultService resources).backends.contains l.backend ∧ l.standIn = "")
    (store.wired now defaultService resources).hosts := by
  refine Draft.allLocations_foldl_wire (fun host ls hls => ?_) fun claimed _ backend hbackend _ =>
    ⟨⟨contains_of_built hbackend, rfl⟩, fun root _ _ hroot => ⟨contains_of_built hbackend, hroot.2⟩⟩
  rw [locationsAt?_built] at hls
  refine allLocations_openedHosts ?_ (fun r _ => ⟨contains_fallbackName r, rfl⟩) ?_ host ls hls
  · exact ⟨by rw [wired_contains]; exact built_contains_fallback, rfl⟩
  · intro r _ backend hown _ root _ hroot
    obtain ⟨service, _, hget⟩ := Option.bind_eq_some_iff.1 hown
    exact ⟨contains_of_built hget, hroot.2⟩

/-- What holds for an ingress of its placeholders, of the locations of its claims and of the roots that it
takes over holds of every location that it owns. -/
theorem allLocations_owned {P : RoutedIngress → Location → Prop}
    (hplaceholder : ∀ r ∈ primaries resources, P r (r.placeholder (r.fallbackName
      (store.built now defaultService resources).backends (store.fallback defaultService))))
    (htake : ∀ r ∈ primaries resources, ∀ backend,
      r.ownFallback? (store.built now defaultService resources).backends = some backend →
      ∀ root : Location, P r (root.takeOver r backend))
    (hclaim : ∀ claimed ∈ allClaims resources, ∀ backend,
      (store.built now defaultService resources).backends.get? (claimedName claimed) = some backend →
      P claimed.1 (.ofClaim claimed.1 claimed.2 backend) ∧
        ∀ root : Location, P claimed.1 (root.claimed claimed.1 claimed.2 backend)) :
    AllLocations (fun l => ∀ owner, l.owner = some owner → ∃ r ∈ primaries resources, r.owner = owner ∧ P r l)
      (store.wired now defaultService resources).hosts := by
  refine Draft.allLocations_foldl_wire (fun host ls hls => ?_) fun claimed hclaimed backend hbackend _ => ?_
  · rw [locationsAt?_built] at hls
    refine allLocations_openedHosts (P := fun l => ∀ owner, l.owner = some owner →
      ∃ r ∈ primaries resources, r.owner = owner ∧ P r l) ?_ (fun r hr owner howner => ?_)
      (fun r hr backend hown _ root _ _ owner howner => ?_) host ls hls
    · intro owner howner
      cases howner
    · exact ⟨r, hr, Option.some.inj howner, hplaceholder r hr⟩
    · exact ⟨r, hr, Option.some.inj howner, htake r hr backend hown root⟩
  · obtain ⟨hr, _⟩ := mem_allClaims.1 hclaimed
    obtain ⟨hof, hroot⟩ := hclaim claimed hclaimed backend hbackend
    exact ⟨fun owner howner => ⟨claimed.1, hr, Option.some.inj howner, hof⟩,
      fun root _ _ _ owner howner => ⟨claimed.1, hr, Option.some.inj howner, hroot root⟩⟩

end Store
end IngressPlane
