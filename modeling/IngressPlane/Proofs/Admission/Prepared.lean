import IngressPlane.Admission.Validator
import IngressPlane.Proofs.Store.Listing
import IngressPlane.Proofs.Synthesis.Arranged
import IngressPlane.Proofs.Synthesis.PathTypes

/-! What is prepared for the check of the data plane, against what is live once the candidate is stored. The
ingresses are the same, but the candidate comes behind all others, not where it will be listed
(`prepare_configuration`). -/
namespace IngressPlane

variable {v : Validator} {store applied : Store} {now : Instant} {candidate : Ingress}
  {prepared : Prepared} {defaultService : Option String}

theorem Validator.prepare_spec (h : v.prepare store now candidate = .ok prepared) :
    let routed := store.routed candidate.setDefaultPathType
    let tested := (store.synthesize now v.defaultService (store.listingWith routed)).configuration
    (v.screening store).violation? candidate = none ∧ tested.conflict? routed = none ∧
      (v.candidateOnly = false → prepared.configuration = tested) := by
  unfold prepare at h
  split at h
  · cases h
  next hscreened =>
    dsimp only at h ⊢
    split at h
    · cases h
    next hfree =>
      refine ⟨hscreened, hfree, fun hfull => ?_⟩
      simp only [hfull, Bool.false_eq_true, if_false, Except.ok.injEq] at h
      rw [← h]

theorem Store.listing_insert? (hkeyed : store.Keyed) (hplaced : candidate.metadata.scope.isSome)
    (happlied : store.insert? (.ingress candidate) = some applied) :
    ∃ older newer, applied.listing = older ++ applied.routed candidate :: newer ∧
      store.listing.filter (·.key ≠ candidate.metadata.resourceKey) = older ++ newer ∧
      (∀ r ∈ older, listingOrder r.ingress.metadata candidate.metadata = .lt) ∧
      (∀ r ∈ newer, listingOrder candidate.metadata r.ingress.metadata = .lt) := by
  obtain ⟨key, hkey, rfl⟩ := Option.map_eq_some_iff.1 happlied
  have hown := Watched.resourceKey_of_key? hplaced hkey
  obtain ⟨older, newer, hsorted, hothers, holder, hnewer⟩ := sorted_insert hkeyed hown
  refine ⟨older.map store.routed, newer.map store.routed, ?_, ?_, ?_, ?_⟩
  · have hlisting : (store.put key (.ingress candidate)).listing =
        (older ++ candidate :: newer).map store.routed := by
      rw [← hsorted]
      rfl
    rw [hlisting, List.map_append, List.map_cons]
    rfl
  · rw [listing_eq, List.filter_map, ← List.map_append, ← hothers, hown]
    rfl
  · intro r hr
    obtain ⟨i, hi, rfl⟩ := List.mem_map.1 hr
    exact holder i hi
  · intro r hr
    obtain ⟨i, hi, rfl⟩ := List.mem_map.1 hr
    exact hnewer i hi

/-- Candidates are tested in place of their stored version, behind all other ingresses. -/
theorem Store.listingWith_insert? (hkeyed : store.Keyed) (hplaced : candidate.metadata.scope.isSome)
    (happlied : store.insert? (.ingress candidate) = some applied) :
    ∃ older newer, applied.listing = older ++ applied.routed candidate :: newer ∧
      (store.listingWith (store.routed candidate.setDefaultPathType)).map RoutedIngress.normalized =
        (older ++ newer ++ [applied.routed candidate]).map RoutedIngress.normalized ∧
      (∀ r ∈ older, listingOrder r.ingress.metadata candidate.metadata = .lt) ∧
      (∀ r ∈ newer, listingOrder candidate.metadata r.ingress.metadata = .lt) := by
  obtain ⟨older, newer, hlisting, hothers, holder, hnewer⟩ := listing_insert? hkeyed hplaced happlied
  refine ⟨older, newer, hlisting, ?_, holder, hnewer⟩
  obtain ⟨key, _, rfl⟩ := Option.map_eq_some_iff.1 happlied
  -- admission makes the path types explicit, and making them so twice is the same as once
  have hnormalized : (store.routed candidate.setDefaultPathType).normalized =
      ((store.put key (.ingress candidate)).routed candidate).normalized := by
    exact RoutedIngress.normalized_normalized (store.routed candidate)
  have hkey : (store.routed candidate.setDefaultPathType).key = candidate.metadata.resourceKey := rfl
  unfold Store.listingWith
  rw [hkey, hothers]
  simp only [List.map_append, List.map_singleton, hnormalized]

/-- The prepared configuration is that of the ingresses that will be stored, with the candidate behind all
others. It is the live one exactly if the candidate can as well stand in front of the ingresses that are
listed behind it, as where there are none. The hosts are the same in any case. -/
theorem prepare_configuration (hkeyed : store.Keyed) (hplaced : candidate.metadata.scope.isSome)
    (hfull : v.candidateOnly = false) (happlied : store.insert? (.ingress candidate) = some applied)
    (hprepared : v.prepare store now candidate = .ok prepared) :
    let live := (applied.synthesizeAll now v.defaultService).configuration
    ∃ older newer, applied.listing = older ++ applied.routed candidate :: newer ∧
      (∀ r ∈ older, listingOrder r.ingress.metadata candidate.metadata = .lt) ∧
      (∀ r ∈ newer, listingOrder candidate.metadata r.ingress.metadata = .lt) ∧
      prepared.configuration = (applied.synthesize now v.defaultService
        (older ++ newer ++ [applied.routed candidate])).configuration ∧
      (prepared.configuration = live ↔
        (applied.synthesize now v.defaultService
          (older ++ newer ++ [applied.routed candidate])).configuration =
        (applied.synthesize now v.defaultService
          (older ++ applied.routed candidate :: newer)).configuration) ∧
      (newer = [] → prepared.configuration = live) ∧
      prepared.configuration.hosts.map (·.hostname) = live.hosts.map (·.hostname) := by
  intro live
  obtain ⟨older, newer, hlisting, htested, holder, hnewer⟩ :=
    Store.listingWith_insert? hkeyed hplaced happlied
  have hlive : live = (applied.synthesize now v.defaultService
      (older ++ applied.routed candidate :: newer)).configuration := by
    rw [← hlisting]
    rfl
  have hbehind : prepared.configuration = (applied.synthesize now v.defaultService
      (older ++ newer ++ [applied.routed candidate])).configuration := by
    have hstore (resources : List RoutedIngress) :
        applied.synthesize now v.defaultService resources =
          store.synthesize now v.defaultService resources := by
      obtain ⟨key, _, rfl⟩ := Option.map_eq_some_iff.1 happlied
      rfl
    rw [(Validator.prepare_spec hprepared).2.2 hfull, hstore,
      ← Store.synthesize_normalized store now v.defaultService, htested, Store.synthesize_normalized]
  refine ⟨older, newer, hlisting, holder, hnewer, hbehind, by rw [hbehind, hlive], fun hnone => ?_, ?_⟩
  · rw [hbehind, hlive, hnone, List.append_nil]
  · rw [hbehind, hlive]
    refine Store.hostnames_congr fun r => ?_
    simp only [List.mem_append, List.mem_cons, List.not_mem_nil, or_false]
    rw [or_assoc, or_comm (a := r ∈ newer)]

theorem exists_of_isOk {ε α : Type} {x : Except ε α} (h : x.isOk) : ∃ a, x = .ok a := by
  cases x with
  | error _ => cases h
  | ok a => exact ⟨a, rfl⟩

/-- A candidate that is to be listed in front of the stored ingress, and is tested behind it. -/
theorem prepare_configuration_of_two :
    let old := rootIngress "ns" "old" "a.com" "web"
    let new := rootIngress "ns" "new" "b.com" "web"
    ∃ applied prepared, (Store.holding old).insert? (.ingress new) = some applied ∧
      ({} : Validator).prepare (Store.holding old) ⟨0, 0⟩ new = .ok prepared ∧
      ∃ older newer, applied.listing = older ++ applied.routed new :: newer ∧
        prepared.configuration = (applied.synthesize ⟨0, 0⟩ none
          (older ++ newer ++ [applied.routed new])).configuration := by
  intro old new
  -- the store is the one after the event that applies the old ingress
  have hplaced : ∀ event ∈ [Controller.Event.apply (.ingress old)], event.IsPlaced :=
    List.forall_mem_singleton.2 rfl
  have hkeyed : (Store.holding old).Keyed := Controller.keyed_run {} hplaced
  have hok : (({} : Validator).prepare (Store.holding old) ⟨0, 0⟩ new).isOk := by decide +kernel
  obtain ⟨prepared, hprepared⟩ := exists_of_isOk hok
  refine ⟨(Store.holding old).put "ns/new" (.ingress new), prepared, rfl, hprepared, ?_⟩
  obtain ⟨older, newer, hlisting, _, _, hbehind, _⟩ :=
    prepare_configuration hkeyed rfl rfl rfl hprepared
  exact ⟨older, newer, hlisting, hbehind⟩

end IngressPlane
