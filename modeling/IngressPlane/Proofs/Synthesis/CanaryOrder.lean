import IngressPlane.Proofs.Store.Keyed
import IngressPlane.Proofs.Synthesis.LeadAlike

/-! What an inserted canary does to the routing of the others. Canaries claim nothing, but the first
reference to a backend decides for good whether it has a server. A path is routed as without the canary
exactly if the claim that wins it without is not on a backend which the canary is first to refer to
(`wired_insert_canary`). -/
namespace IngressPlane

variable {c r : RoutedIngress} {name : String} {before after resources : List RoutedIngress}
  {store : Store} {now : Instant} {defaultService : Option String} {host : String} {key : String × PathType}

def ComesFirst (before : List RoutedIngress) (c : RoutedIngress) (name : String) : Prop :=
  name ≠ defaultBackendName ∧ name ∈ c.serviceRefs.map c.backendName ∧
    name ∉ (allReferences before).map referenceName

instance (before : List RoutedIngress) (c : RoutedIngress) (name : String) :
    Decidable (ComesFirst before c name) := by
  unfold ComesFirst
  infer_instance

theorem primaries_insert (hcanary : c.isCanary = true) :
    primaries (before ++ c :: after) = primaries (before ++ after) := by
  simp [primaries, List.filter_append, hcanary]

theorem allClaims_insert (hcanary : c.isCanary = true) :
    allClaims (before ++ c :: after) = allClaims (before ++ after) := by
  rw [allClaims, primaries_insert hcanary, allClaims]

theorem allReferences_insert (before after : List RoutedIngress) (c : RoutedIngress) :
    allReferences (before ++ c :: after) =
      allReferences before ++ (c.serviceRefs.map (c, ·) ++ allReferences after) := by
  simp [allReferences]

theorem exists_find?_references {references : List (RoutedIngress × ServiceRef)}
    (h : name ∈ references.map referenceName) :
    ∃ reference, references.find? (referenceName · = name) = some reference := by
  obtain ⟨reference, hreference, hname⟩ := List.mem_map.1 h
  rw [← Option.isSome_iff_exists, List.find?_isSome]
  exact ⟨reference, hreference, decide_eq_true hname⟩

theorem find?_references_eq_none {references : List (RoutedIngress × ServiceRef)}
    (h : name ∉ references.map referenceName) : references.find? (referenceName · = name) = none := by
  refine List.find?_eq_none.2 fun reference hreference hname => h ?_
  exact List.mem_map.2 ⟨reference, hreference, of_decide_eq_true hname⟩

namespace Store

theorem built_insert_first (h : ComesFirst before c name) :
    ∃ backend, (store.built now defaultService (before ++ c :: after)).backends.get? name = some backend ∧
      backend.noServer = c.isCanary := by
  obtain ⟨hname, hown, hbefore⟩ := h
  have hfallback : (store.fallback defaultService).name ≠ name := by
    rw [(store.fallback_spec defaultService).1]
    exact hname.symm
  have hreferences : name ∈ (c.serviceRefs.map (c, ·)).map referenceName := by
    rw [List.map_map]
    exact hown
  obtain ⟨reference, hreference⟩ := exists_find?_references hreferences
  rw [built_backends, get?_buildBackends, if_neg hfallback, allReferences_insert, List.find?_append,
    find?_references_eq_none hbefore, Option.none_or, List.find?_append, hreference]
  obtain ⟨service, _, rfl⟩ := List.mem_map.1 (List.mem_of_find?_eq_some hreference)
  exact ⟨_, rfl, rfl⟩

theorem built_insert_other (h : ¬ ComesFirst before c name) :
    (store.built now defaultService (before ++ c :: after)).backends.get? name =
      (store.built now defaultService (before ++ after)).backends.get? name := by
  have hreferences : allReferences (before ++ after) = allReferences before ++ allReferences after := by
    simp [allReferences]
  rw [built_backends, built_backends, get?_buildBackends, get?_buildBackends, allReferences_insert,
    hreferences, List.find?_append, List.find?_append, List.find?_append]
  split
  · rfl
  next hfallback =>
    rw [(store.fallback_spec defaultService).1] at hfallback
    by_cases hbefore : name ∈ (allReferences before).map referenceName
    · obtain ⟨reference, hreference⟩ := exists_find?_references hbefore
      rw [hreference, Option.some_or, Option.some_or]
    · have hown : name ∉ (c.serviceRefs.map (c, ·)).map referenceName := fun hown =>
        h ⟨Ne.symm hfallback, by rwa [List.map_map] at hown, hbefore⟩
      rw [find?_references_eq_none hown, Option.none_or]

theorem canWin_insert (hcanary : c.isCanary = true) (claimed : RoutedIngress × PathClaim) :
    canWin (store.built now defaultService (before ++ c :: after)).backends claimed =
      (decide (¬ ComesFirst before c (claimedName claimed)) &&
        canWin (store.built now defaultService (before ++ after)).backends claimed) := by
  by_cases hfirst : ComesFirst before c (claimedName claimed)
  · have hconfigured : ∃ backend, (store.built now defaultService (before ++ c :: after)).backends.get?
        (claimedName claimed) = some backend ∧ backend.noServer = c.isCanary := built_insert_first hfirst
    obtain ⟨backend, hbackend, hserver⟩ := hconfigured
    simp [canWin, hbackend, hserver, hcanary, hfirst]
  · simp [canWin, built_insert_other hfirst, hfirst]

theorem leadAlike_insert (hcanary : c.isCanary = true) :
    LeadAlike (store.built now defaultService (before ++ c :: after)).hosts
      (store.built now defaultService (before ++ after)).hosts := by
  intro host
  rw [locationsAt?_built, locationsAt?_built]
  refine leadAlike_openedHosts (primaries_insert hcanary) (fun r hr => ?_) host
  have hmem : r ∈ before ++ after := (mem_primaries.1 hr).1
  have hmem' : r ∈ before ++ c :: after := by
    rw [← primaries_insert hcanary] at hr
    exact (mem_primaries.1 hr).1
  rw [ownFallback?_name hmem, ownFallback?_name hmem']

theorem not_comesFirst_of_winner (hcanary : c.isCanary = true) {claimed : RoutedIngress × PathClaim}
    (h : (store.built now defaultService (before ++ c :: after)).winner? (allClaims (before ++ after))
      host key = some claimed) : ¬ ComesFirst before c (claimedName claimed) := by
  have hwin := (Draft.winner?_spec h).2.2.2.1
  rw [canWin_insert hcanary, Bool.and_eq_true, decide_eq_true_iff] at hwin
  exact hwin.1

/-- A path whose winner the canary does not come first on is as without the canary. -/
theorem locationAt?_insert_kept (hcanary : c.isCanary = true)
    (hkept : ∀ claimed, (store.built now defaultService (before ++ after)).winner?
      (allClaims (before ++ after)) host key = some claimed → ¬ ComesFirst before c (claimedName claimed)) :
    (locationAt? (store.wired now defaultService (before ++ c :: after)).hosts host key).map
        Location.unresolved =
      (locationAt? (store.wired now defaultService (before ++ after)).hosts host key).map
        Location.unresolved := by
  have halike : LeadAlike (store.built now defaultService (before ++ c :: after)).hosts
      (store.built now defaultService (before ++ after)).hosts := leadAlike_insert hcanary
  rw [locationAt?_wired, locationAt?_wired, allClaims_insert hcanary]
  cases hwinner : (store.built now defaultService (before ++ after)).winner?
      (allClaims (before ++ after)) host key with
  | none =>
    rw [(halike.winner? (canWin_insert hcanary)).1 hwinner]
    exact halike.locationAt?
  | some claimed =>
    have hfirst := hkept claimed hwinner
    rw [(halike.winner? (canWin_insert hcanary)).2 claimed hwinner hfirst]
    exact occupy_congr halike.locationAt? (built_insert_other hfirst)

/-- A path whose winner the canary comes first on falls back, goes to another backend, or is gone. -/
theorem locationAt?_insert_lost (hcanary : c.isCanary = true) {claimed : RoutedIngress × PathClaim}
    (hwinner : (store.built now defaultService (before ++ after)).winner? (allClaims (before ++ after))
      host key = some claimed)
    (hfirst : ComesFirst before c (claimedName claimed)) {l : Location}
    (hl : locationAt? (store.wired now defaultService (before ++ c :: after)).hosts host key = some l) :
    l.isFallback = true ∨ l.backend ≠ claimedName claimed := by
  have halike : LeadAlike (store.built now defaultService (before ++ c :: after)).hosts
      (store.built now defaultService (before ++ after)).hosts := leadAlike_insert hcanary
  cases hother : (store.built now defaultService (before ++ c :: after)).winner?
      (allClaims (before ++ after)) host key with
  | none =>
    -- nothing is placed, so the path is still what the host is opened with
    have hfree := halike.isFree.trans (Draft.winner?_spec hwinner).2.2.2.2
    rw [locationAt?_wired, allClaims_insert hcanary, hother] at hl
    have hstart : locationAt? (store.built now defaultService (before ++ c :: after)).hosts host key =
        some l := hl
    rw [Draft.isFree, hstart, Bool.and_eq_true] at hfree
    exact .inl hfree.2
  | some other =>
    -- another claim wins, and not on the backend that is lost to claims
    have hkept := not_comesFirst_of_winner hcanary hother
    rw [← allClaims_insert hcanary] at hother
    obtain ⟨l', hl', _, _, hlead⟩ := locationAt?_of_winner hother
    obtain rfl : l = l' := Option.some.inj (hl.symm.trans hl')
    refine .inr fun heq => hkept ?_
    rwa [← hlead, heq]

end Store

/-- An inserted canary leaves all hosts, and it leaves a path of a host up to the service that its backend
is resolved to, exactly if the claim that wins the path without it is not on a backend that the canary is
first to refer to. Such a claim is lost: the path falls back, goes to another backend, or is gone. -/
theorem wired_insert_canary (store : Store) (now : Instant) (defaultService : Option String)
    (before after : List RoutedIngress) (hcanary : c.isCanary = true) :
    let claims := allClaims (before ++ after)
    let opened := store.built now defaultService (before ++ after)
    let without := store.wired now defaultService (before ++ after)
    let inserted := store.wired now defaultService (before ++ c :: after)
    inserted.hosts.keys = without.hosts.keys ∧ ∀ host key,
      ((locationAt? inserted.hosts host key).map Location.unresolved =
          (locationAt? without.hosts host key).map Location.unresolved ↔
        ∀ claimed, opened.winner? claims host key = some claimed →
          ¬ ComesFirst before c (claimedName claimed)) ∧
      ∀ claimed, opened.winner? claims host key = some claimed →
        (∃ l, locationAt? without.hosts host key = some l ∧ l.isFallback = false ∧
          l.owner = some claimed.1.owner ∧ l.backend = claimedName claimed) ∧
        (ComesFirst before c (claimedName claimed) → ∀ l, locationAt? inserted.hosts host key = some l →
          l.isFallback = true ∨ l.backend ≠ claimedName claimed) := by
  intro claims opened without inserted
  have hthere (host : String) : inserted.hosts.contains host = without.hosts.contains host := by
    rw [Store.contains_wired_hosts, Store.contains_wired_hosts, Store.contains_built_hosts,
      Store.contains_built_hosts, primaries_insert hcanary]
  refine ⟨Table.keys_congr hthere, fun host key =>
    ⟨⟨fun hsame claimed hwinner hfirst => ?_, Store.locationAt?_insert_kept hcanary⟩,
      fun claimed hwinner => ⟨Store.locationAt?_of_winner hwinner, fun hfirst _ =>
        Store.locationAt?_insert_lost hcanary hwinner hfirst⟩⟩⟩
  -- were a lost claim's location the same, it would be taken and lead to the claim's backend
  obtain ⟨l, hl, htaken, _, hlead⟩ := Store.locationAt?_of_winner hwinner
  rw [hl, Option.map_some, Option.map_eq_some_iff] at hsame
  obtain ⟨l', hl', heq⟩ := hsame
  have hflag : l'.isFallback = l.isFallback := by simpa using congrArg Location.isFallback heq
  have hbackend : l'.backend = l.backend := by simpa using congrArg Location.backend heq
  rcases Store.locationAt?_insert_lost hcanary hwinner hfirst hl' with hfallback | hne
  · rw [hflag, htaken] at hfallback
    cases hfallback
  · exact hne (hbackend.trans hlead)

/-- A canary for another host that takes the root of a host from the ingress behind it. -/
theorem wired_insert_canary_of_two :
    let store := Store.withOptions {}
    let canary : RoutedIngress := ⟨rootIngress "ns" "shadow" "b.com" "web", { canary := { enabled := true } }⟩
    let site : RoutedIngress := ⟨rootIngress "ns" "site" "a.com" "web", {}⟩
    (∃ l, locationAt? (store.wired ⟨0, 0⟩ none [site]).hosts "a.com" ("/", .under) = some l ∧
      l.isFallback = false ∧ l.backend = "ns-web-80") ∧
    ∀ l, locationAt? (store.wired ⟨0, 0⟩ none [canary, site]).hosts "a.com" ("/", .under) = some l →
      l.isFallback = true ∨ l.backend ≠ "ns-web-80" := by
  intro store canary site
  let claimed : RoutedIngress × PathClaim :=
    (site, ⟨"a.com", "/", .under, { name := "web", port := some { number := some 80 } }⟩)
  have hcanary : canary.isCanary = true := rfl
  have hwinner : (store.built ⟨0, 0⟩ none [site]).winner? (allClaims [site]) "a.com" ("/", .under) =
      some claimed := by decide +kernel
  have hname : claimedName claimed = "ns-web-80" := by decide +kernel
  have hfirst : ComesFirst [] canary (claimedName claimed) := by decide +kernel
  have hpath := (wired_insert_canary store ⟨0, 0⟩ none [] [site] hcanary).2 "a.com" ("/", .under)
  obtain ⟨⟨l, hl, htaken, _, hlead⟩, hlost⟩ := hpath.2 claimed hwinner
  rw [hname] at hlead hlost hfirst
  exact ⟨⟨l, hl, htaken, hlead⟩, hlost hfirst⟩

end IngressPlane
