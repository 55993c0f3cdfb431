import IngressPlane.Proofs.Synthesis.Canaries
import IngressPlane.Proofs.Synthesis.Expansion
import IngressPlane.Proofs.Synthesis.StandIns

/-! The backends that a configuration names. All of them are there, but for one kind: the default backend of
an ingress that a canary has referred to first, and that the canary stage abandons
(`synthesize_references`). -/
namespace IngressPlane

namespace Configuration

def backendNames (c : Configuration) : List String := c.backends.map (·.name)

/-- Every backend that anything in a configuration names is there. -/
structure ReferentiallyClosed (c : Configuration) : Prop where
  locations : ∀ l ∈ c.locations, l.backend ∈ c.backendNames
  standIns : ∀ l ∈ c.locations, l.standIn ≠ "" → l.standIn ∈ c.backendNames
  alternatives : ∀ b ∈ c.backends, ∀ name ∈ b.alternatives, name ∈ c.backendNames
  passthroughs : ∀ p ∈ c.passthroughs, p.backend ∈ c.backendNames

end Configuration

variable {store : Store} {now : Instant} {defaultService : Option String}
  {resources : List RoutedIngress} {d : Draft} {name : String}

def Backend.unmarked (b : Backend) : Backend := { b with sslPassthrough := false }

theorem Draft.get?_markPassthrough (d : Draft) (k : String) :
    d.markPassthrough.backends.get? k = (d.backends.get? k).map fun b =>
      { b with sslPassthrough := b.sslPassthrough || decide (k ∈ passthroughBackendNames d.hosts) } := by
  have hrun (names : List String) (t : Table Backend) :
      (names.foldl (fun t name => t.modify name fun b => { b with sslPassthrough := true }) t).get? k =
        (t.get? k).map fun b => { b with sslPassthrough := b.sslPassthrough || decide (k ∈ names) } := by
    induction names generalizing t with
    | nil => simp
    | cons name names ih =>
      rw [List.foldl_cons, ih, Table.get?_modify]
      by_cases hk : k = name <;> simp [hk, Function.comp_def]
  exact hrun _ _

theorem Draft.markPassthrough_unmarked (d : Draft) :
    d.markPassthrough.backends.map Backend.unmarked = d.backends.map Backend.unmarked := by
  refine Table.ext_get? fun k => ?_
  rw [Table.get?_map, Draft.get?_markPassthrough, Table.get?_map, Option.map_map]
  rfl

theorem mem_passthroughs {p : Passthrough} (h : p ∈ passthroughs d.hosts) :
    ∃ l ∈ d.locations, l.backend = p.backend := by
  obtain ⟨v, hv, hentry⟩ := List.mem_filterMap.1 h
  obtain ⟨root, hroot, rfl⟩ := Option.map_eq_some_iff.1 hentry
  have hmem : root ∈ v.locations := (List.mem_filter.1 (List.mem_of_head? hroot)).1
  exact ⟨root, List.mem_flatMap.2 ⟨v, (List.mem_filter.1 hv).1, hmem⟩, rfl⟩

namespace Store

-- for any draft: unfolding the stages of one takes long
theorem configurationOf_backends (store : Store) (resources : List RoutedIngress) (d : Draft) :
    (store.configurationOf resources d).backends = d.backends.values := rfl

theorem synthesize_backends :
    (store.synthesize now defaultService resources).configuration.backends =
      (store.arranged now defaultService (admissible store.settings resources)).backends.values :=
  configurationOf_backends store _ _

theorem synthesize_locations :
    (store.synthesize now defaultService resources).configuration.locations =
      (store.arranged now defaultService (admissible store.settings resources)).locations := rfl

theorem exists_target {backend : Backend}
    (h : (store.wired now defaultService resources).backends.get? name = some backend)
    (hcanary : backend.noServer) :
    ∃ target ∈ allTargets resources, target.2.alternative = name := by
  obtain ⟨r, hr, service, hservice, rfl⟩ := wired_noServer h hcanary
  have htarget : ∃ t ∈ r.canaryTargets, t.alternative = r.backendName service := by
    rcases List.mem_append.1 hservice with hdefault | hclaims
    · exact ⟨_, List.mem_append_left _ (List.mem_map.2 ⟨service, hdefault, rfl⟩), rfl⟩
    · obtain ⟨claim, hclaim, rfl⟩ := List.mem_map.1 hclaims
      exact ⟨_, List.mem_append_right _ (List.mem_map.2 ⟨claim, hclaim, rfl⟩), rfl⟩
  obtain ⟨t, ht, halternative⟩ := htarget
  exact ⟨(r.isLegacyCanary, t), List.mem_flatMap.2 ⟨r, hr, List.mem_map.2 ⟨t, ht, rfl⟩⟩, halternative⟩

theorem contains_shadowed : (store.shadowed now defaultService resources).backends.contains name ↔
    (store.wired now defaultService resources).backends.contains name ∧
      ¬ (store.wired now defaultService resources).Abandons resources name :=
  Draft.contains_attachCanaries (store.wired_backends_named now defaultService resources)
    (fun _ _ => exists_target) name

/-- Whether a backend of this name is built for another one than a canary, or is the default backend of an
ingress with locations. -/
def IsServed (store : Store) (now : Instant) (defaultService : Option String)
    (resources : List RoutedIngress) (name : String) : Prop :=
  (∃ b, (store.built now defaultService resources).backends.get? name = some b ∧ b.noServer = false) ∨
    ∃ r ∈ primaries resources, ∃ service, r.defaultService = some service ∧ r.backendName service = name

theorem isServed_of_get? {backend : Backend}
    (h : (store.built now defaultService resources).backends.get? name = some backend)
    (hserver : backend.noServer = false) :
    store.IsServed now defaultService resources backend.name := by
  refine .inl ⟨backend, ?_, hserver⟩
  rw [buildBackends_named store resources _ name backend h]
  exact h

theorem isServed_of_ownFallback? {r : RoutedIngress} {backend : Backend} (hr : r ∈ primaries resources)
    (h : r.ownFallback? (store.built now defaultService resources).backends = some backend) :
    store.IsServed now defaultService resources backend.name := by
  obtain ⟨service, hservice, hget⟩ := Option.bind_eq_some_iff.1 h
  exact .inr ⟨r, hr, service, hservice, (buildBackends_named store resources _ _ backend hget).symm⟩

theorem isServed_fallback :
    store.IsServed now defaultService resources (store.fallback defaultService).name := by
  refine .inl ⟨store.fallback defaultService, ?_, (store.fallback_spec defaultService).2.1⟩
  rw [built_backends, get?_buildBackends, if_pos rfl]

theorem allLocations_isServed : AllLocations
    (fun l => store.IsServed now defaultService resources l.backend)
    (store.wired now defaultService resources).hosts := by
  refine Draft.allLocations_foldl_wire (fun host ls hls => ?_) fun claimed _ backend hbackend hserver =>
    ⟨isServed_of_get? hbackend hserver, fun _ _ _ _ => isServed_of_get? hbackend hserver⟩
  rw [locationsAt?_built] at hls
  refine allLocations_openedHosts isServed_fallback (fun r hr => ?_) ?_ host ls hls
  · have hname : (r.placeholder (r.fallbackName (store.built now defaultService resources).backends
        (store.fallback defaultService))).backend = r.fallbackName _ (store.fallback defaultService) := rfl
    rw [hname]
    unfold RoutedIngress.fallbackName
    cases hown : r.ownFallback? (store.built now defaultService resources).backends with
    | none => exact isServed_fallback
    | some backend => exact isServed_of_ownFallback? hr hown
  · exact fun r hr backend hown _ root _ _ => isServed_of_ownFallback? hr hown

section Arranged
variable (store : Store) (now : Instant) (defaultService : Option String)
  (resources : List RoutedIngress)

def shadowedStandIns : StandIns := (store.shadowed now defaultService resources).standIns store

variable {store now defaultService resources}

theorem shadowed_locations : (store.shadowed now defaultService resources).locations =
    (store.wired now defaultService resources).locations := by
  unfold Draft.locations shadowed
  rw [Draft.attachCanaries_hosts]

theorem recorded_shadowedStandIns : (store.shadowedStandIns now defaultService resources).Recorded store
    ((store.wired now defaultService resources).locations.map (·.backend)) := by
  rw [← shadowed_locations]
  refine Draft.recorded_addStandIns fun l hl => ?_
  rw [shadowed_locations] at hl
  obtain ⟨host, ls, hls, hmem⟩ := mem_locations.1 hl
  exact (allLocations_wired host ls hls l hmem).2

theorem addStandIns_named :
    ((store.shadowed now defaultService resources).addStandIns store).backends.Named Backend.name :=
  (Draft.addStandIns_backends (Draft.attachCanaries_named
    (store.wired_backends_named now defaultService resources))).1

theorem arranged_unmarked : (store.arranged now defaultService resources).backends.map Backend.unmarked =
    ((store.shadowed now defaultService resources).addStandIns store).backends.map Backend.unmarked :=
  Draft.markPassthrough_unmarked _

theorem arranged_named : (store.arranged now defaultService resources).backends.Named Backend.name := by
  refine Table.Named.of_map (f := Backend.unmarked) (fun _ => rfl) ?_
  rw [arranged_unmarked]
  exact addStandIns_named.map fun _ => rfl

theorem contains_arranged : (store.arranged now defaultService resources).backends.contains name ↔
    (store.shadowed now defaultService resources).backends.contains name ∨
      (store.shadowedStandIns now defaultService resources).added.contains name := by
  rw [← Table.contains_map Backend.unmarked, arranged_unmarked, Table.contains_map]
  exact Draft.contains_addStandIns

theorem arranged_alternatives {k : String} {b : Backend}
    (hb : (store.arranged now defaultService resources).backends.get? k = some b) :
    ∀ name ∈ b.alternatives, (store.arranged now defaultService resources).backends.contains name := by
  intro name hname
  obtain ⟨b', hb', hunmarked⟩ := Table.get?_of_map_eq arranged_unmarked hb
  obtain ⟨k', b'', hb'', hcopy⟩ := (Draft.addStandIns_backends (Draft.attachCanaries_named
    (store.wired_backends_named now defaultService resources))).2 k b' hb'
  have hsame : b'.alternatives = b.alternatives := congrArg (·.alternatives) hunmarked
  have halternatives : b'.alternatives = b''.alternatives := congrArg (·.alternatives) hcopy
  refine contains_arranged.2 (.inl (Draft.attachCanaries_alternatives
    (fun _ _ => wired_alternatives) hb'' name ?_))
  rwa [← halternatives, hsame]

theorem exists_arranged {P : Location → Prop} (hP : ∀ l l', l'.content = l.content → (P l' ↔ P l)) :
    (∃ l ∈ (store.arranged now defaultService resources).locations, P l) ↔
      ∃ l ∈ (store.shadowedStandIns now defaultService resources).locations, P l :=
  exists_arranged_iff hP

/-- The name of a backend that the canary stage abandons and that is no location's stand-in. -/
def IsLost (store : Store) (now : Instant) (defaultService : Option String)
    (resources : List RoutedIngress) (name : String) : Prop :=
  (store.wired now defaultService resources).Abandons resources name ∧
    ¬ ∃ l ∈ (store.arranged now defaultService resources).locations, l.standIn ≠ "" ∧ l.standIn = name

theorem contains_added : (store.shadowedStandIns now defaultService resources).added.contains name ↔
    ∃ l ∈ (store.arranged now defaultService resources).locations, l.standIn ≠ "" ∧ l.standIn = name := by
  have hcontent (l l' : Location) (h : l'.content = l.content) : l'.standIn = l.standIn := by
    simpa using congrArg Location.standIn h
  rw [exists_arranged fun l l' h => by rw [hcontent l l' h]]
  constructor
  · exact recorded_shadowedStandIns.used name
  · rintro ⟨l, hl, hne, rfl⟩
    exact recorded_shadowedStandIns.present l hl hne

/-- A location leads to where it led when it was wired, or to its stand-in. -/
theorem arranged_routed {l : Location} (hl : l ∈ (store.arranged now defaultService resources).locations) :
    (∃ l' ∈ (store.wired now defaultService resources).locations, l'.backend = l.backend) ∨
      l.standIn ≠ "" ∧ l.backend = l.standIn := by
  have hcontent (l l' : Location) (h : l'.content = l.content) :
      l'.backend = l.backend ∧ l'.standIn = l.standIn :=
    ⟨by simpa using congrArg Location.backend h, by simpa using congrArg Location.standIn h⟩
  obtain ⟨l', hl', hbackend, hstandIn⟩ := (exists_arranged (P := fun l' : Location =>
    l'.backend = l.backend ∧ l'.standIn = l.standIn) fun l l' h => by
      rw [(hcontent l l' h).1, (hcontent l l' h).2]).1 ⟨l, hl, rfl, rfl⟩
  rw [← hbackend, ← hstandIn]
  rcases recorded_shadowedStandIns.routed l' hl' with horigin | hstandIn
  · exact .inl (List.mem_map.1 horigin)
  · exact .inr hstandIn

theorem contains_arranged_backend {l : Location}
    (hl : l ∈ (store.arranged now defaultService resources).locations) :
    (store.arranged now defaultService resources).backends.contains l.backend ↔
      ¬ store.IsLost now defaultService resources l.backend := by
  rw [contains_arranged, contains_shadowed, contains_added, IsLost, Classical.not_and_iff_not_or_not,
    Classical.not_not]
  rcases arranged_routed hl with ⟨l', hl', hbackend⟩ | ⟨hne, hbackend⟩
  · obtain ⟨host, ls, hls, hmem⟩ := mem_locations.1 hl'
    have hthere : (store.wired now defaultService resources).backends.contains l.backend :=
      hbackend ▸ (allLocations_wired host ls hls l' hmem).1
    simp only [hthere, true_and]
  · have hown : ∃ l' ∈ (store.arranged now defaultService resources).locations,
        l'.standIn ≠ "" ∧ l'.standIn = l.backend := ⟨l, hl, hne, hbackend.symm⟩
    simp only [hown, or_true]

theorem defaultService_of_isLost {l : Location}
    (hl : l ∈ (store.arranged now defaultService resources).locations)
    (hlost : store.IsLost now defaultService resources l.backend) :
    ∃ r ∈ primaries resources, ∃ service, r.defaultService = some service ∧
      r.backendName service = l.backend := by
  obtain ⟨⟨⟨backend, hbackend, hcanary⟩, _⟩, hunused⟩ := hlost
  rcases arranged_routed hl with ⟨l', hl', hsame⟩ | ⟨hne, hsame⟩
  · obtain ⟨host, ls, hls, hmem⟩ := mem_locations.1 hl'
    have hserved : store.IsServed now defaultService resources l.backend :=
      hsame ▸ allLocations_isServed host ls hls l' hmem
    rcases hserved with ⟨b, hb, hserver⟩ | hdefault
    · -- only a canary's backend is abandoned
      obtain ⟨b', hb', hbare⟩ := wired_backend hbackend
      obtain rfl : b = b' := Option.some.inj (hb.symm.trans hb')
      have hflag : b.noServer = backend.noServer := by simpa using congrArg Backend.noServer hbare
      rw [hflag, hcanary] at hserver
      cases hserver
    · exact hdefault
  · exact (hunused ⟨l, hl, hne, hsame.symm⟩).elim

theorem mem_backendNames_synthesize :
    name ∈ (store.synthesize now defaultService resources).configuration.backendNames ↔
      (store.arranged now defaultService (admissible store.settings resources)).backends.contains name := by
  rw [Configuration.backendNames, synthesize_backends]
  exact Table.Named.mem_names arranged_named

end Arranged

end Store

/-- Stand-ins and alternatives are always there, and passthrough entries lead where locations do. A location
leads to a backend that is missing exactly if that is lost: a canary came first with it, the canary stage
abandons it, and it is no stand-in. Then it is the default backend of an ingress that is no canary. -/
theorem synthesize_references (store : Store) (now : Instant) (defaultService : Option String)
    (resources : List RoutedIngress) :
    let counted := admissible store.settings resources
    let wired := store.wired now defaultService counted
    let c := (store.synthesize now defaultService resources).configuration
    (∀ l ∈ c.locations, l.standIn ≠ "" → l.standIn ∈ c.backendNames) ∧
      (∀ b ∈ c.backends, ∀ name ∈ b.alternatives, name ∈ c.backendNames) ∧
      (∀ p ∈ c.passthroughs, ∃ l ∈ c.locations, l.backend = p.backend) ∧
      (∀ l ∈ wired.locations, l.backend ∉ (wired.attachCanaries counted).backends.keys ↔
        wired.Abandons counted l.backend) ∧
      (∀ l ∈ c.locations, l.backend ∉ c.backendNames ↔
        store.IsLost now defaultService counted l.backend) ∧
      (∀ l ∈ c.locations, store.IsLost now defaultService counted l.backend →
        ∃ r ∈ primaries counted, ∃ service, r.defaultService = some service ∧
          r.backendName service = l.backend) ∧
      (c.ReferentiallyClosed ↔
        ∀ l ∈ c.locations, ¬ store.IsLost now defaultService counted l.backend) := by
  intro counted wired c
  have hnames {name : String} : name ∈ c.backendNames ↔
      (store.arranged now defaultService counted).backends.contains name :=
    Store.mem_backendNames_synthesize
  have hlocations : c.locations = (store.arranged now defaultService counted).locations :=
    Store.synthesize_locations
  have hstandIns : ∀ l ∈ c.locations, l.standIn ≠ "" → l.standIn ∈ c.backendNames :=
    fun l hl hne => hnames.2 (Store.contains_arranged.2 (.inr (Store.contains_added.2 ⟨l, hl, hne, rfl⟩)))
  have halternatives : ∀ b ∈ c.backends, ∀ name ∈ b.alternatives, name ∈ c.backendNames := by
    intro b hb name hname
    rw [Store.synthesize_backends] at hb
    obtain ⟨k, hk⟩ := Table.mem_values.1 hb
    exact hnames.2 (Store.arranged_alternatives hk name hname)
  have hpassthroughs : ∀ p ∈ c.passthroughs, ∃ l ∈ c.locations, l.backend = p.backend := by
    intro p hp
    rw [hlocations]
    exact mem_passthroughs hp
  have hlost : ∀ l ∈ c.locations, l.backend ∉ c.backendNames ↔
      store.IsLost now defaultService counted l.backend := fun l hl => by
    rw [hnames, Store.contains_arranged_backend hl, Classical.not_not]
  refine ⟨hstandIns, halternatives, hpassthroughs, fun l hl => ?_, hlost,
    fun l hl => Store.defaultService_of_isLost (hlocations ▸ hl), fun h l hl => ?_, fun h => ?_⟩
  · obtain ⟨host, ls, hls, hmem⟩ := mem_locations.1 hl
    have hthere := (Store.allLocations_wired host ls hls l hmem).1
    have hkept : (wired.attachCanaries counted).backends.contains l.backend ↔
        wired.backends.contains l.backend ∧ ¬ wired.Abandons counted l.backend := Store.contains_shadowed
    rw [Table.mem_keys, hkept, not_and, Classical.not_not]
    exact ⟨fun habandons => habandons hthere, fun habandons _ => habandons⟩
  · rw [← hlost l hl, Classical.not_not]
    exact h.locations l hl
  · have hclosed : ∀ l ∈ c.locations, l.backend ∈ c.backendNames := fun l hl => by
      have hnot := h l hl
      rwa [← hlost l hl, Classical.not_not] at hnot
    refine ⟨hclosed, hstandIns, halternatives, fun p hp => ?_⟩
    obtain ⟨l, hl, hsame⟩ := hpassthroughs p hp
    exact hsame ▸ hclosed l hl

end IngressPlane
