import IngressPlane.Proofs.Admission.Prepared
import IngressPlane.Proofs.Synthesis.Ownership

/-! The overlap check goes by the paths at which locations are tried once they are expanded, whatever their
types (`prepare_conflict_iff`). So an exact path and a prefix meet in one, and a candidate that has a path
with one type already may claim it with the other. -/
namespace IngressPlane

variable {v : Validator} {store : Store} {now : Instant} {defaultService : Option String}
  {resources : List RoutedIngress} {candidate : RoutedIngress} {host path : String} {owner : Owner}

/-- The owners of the locations that requests for a path of a host are matched with, fallbacks apart. -/
def servers (hosts : Table VirtualHost) (host path : String) : List Owner :=
  let ls := (locationsAt? hosts host).getD []
  (ls.filter fun l => (l.servedPaths (ls.map Location.key)).contains path && !l.isFallback).filterMap (·.owner)

theorem mem_servers {hosts : Table VirtualHost} :
    owner ∈ servers hosts host path ↔ ∃ ls, locationsAt? hosts host = some ls ∧
      ∃ l ∈ ls, path ∈ l.servedPaths (ls.map Location.key) ∧ l.isFallback = false ∧ l.owner = some owner := by
  unfold servers
  cases locationsAt? hosts host <;> simp [and_assoc]

/-- Whether a path that an ingress claims stays with another one: neither says whether it is a canary, and
the claimant does not serve the path itself. -/
def Contested (hosts : Table VirtualHost) (claimant : Owner) (host path : String) : Prop :=
  claimant.canary = none ∧ (∃ owner ∈ servers hosts host path, owner.canary = none) ∧
    ∀ owner ∈ servers hosts host path, owner.isSame claimant = false

instance (hosts : Table VirtualHost) (claimant : Owner) (host path : String) :
    Decidable (Contested hosts claimant host path) := by
  unfold Contested
  infer_instance

namespace Configuration

variable {c : Configuration} {claimant : Owner}

theorem mem_ownersAt : owner ∈ c.ownersAt host path ↔ ∃ v ∈ c.hosts, v.hostname = host ∧
    ∃ l ∈ v.locations, l.path = path ∧ l.isFallback = false ∧ l.owner = some owner := by
  simp only [ownersAt, List.mem_filterMap, List.mem_filter, List.mem_flatMap, decide_eq_true_eq,
    Bool.and_eq_true, Bool.not_eq_true']
  constructor
  · rintro ⟨l, ⟨⟨v, ⟨hv, hhost⟩, hl⟩, hpath, hfallback⟩, howner⟩
    exact ⟨v, hv, hhost, l, hl, hpath, hfallback, howner⟩
  · rintro ⟨v, hv, hhost, l, hl, hpath, hfallback, howner⟩
    exact ⟨l, ⟨⟨v, ⟨hv, hhost⟩, hl⟩, hpath, hfallback⟩, howner⟩

theorem rivalAt?_isSome_iff : (c.rivalAt? claimant host path).isSome ↔
    claimant.canary = none ∧ (∃ owner ∈ c.ownersAt host path, owner.canary = none) ∧
      ∀ owner ∈ c.ownersAt host path, owner.isSame claimant = false := by
  unfold rivalAt?
  dsimp only
  by_cases hown : (c.ownersAt host path).any (·.isSame claimant)
  · rw [if_pos hown]
    obtain ⟨owner, hmem, hsame⟩ := List.any_eq_true.1 hown
    constructor
    · intro h
      cases h
    · rintro ⟨_, _, hothers⟩
      simp [hothers owner hmem] at hsame
  · have hothers : ∀ owner ∈ c.ownersAt host path, owner.isSame claimant = false := by
      simpa using hown
    rw [if_neg hown, List.find?_isSome]
    simp only [Bool.and_eq_true, Option.isNone_iff_eq_none]
    constructor
    · rintro ⟨owner, hmem, hclaimant, hcanary⟩
      exact ⟨hclaimant, ⟨owner, hmem, hcanary⟩, hothers⟩
    · rintro ⟨hclaimant, ⟨owner, hmem, hcanary⟩, _⟩
      exact ⟨owner, hmem, hclaimant, hcanary⟩

end Configuration

theorem Configuration.mem_ownersAt_arranged {c : Configuration} {hosts : Table VirtualHost}
    (hnamed : hosts.Named VirtualHost.hostname) (hhosts : c.hosts = (hosts.map VirtualHost.arrange).values) :
    owner ∈ c.ownersAt host path ↔ owner ∈ servers hosts host path := by
  rw [mem_ownersAt, mem_servers, hhosts, Table.values_map]
  constructor
  · rintro ⟨_, harranged, rfl, l', hl', rfl, hfallback, howner⟩
    obtain ⟨v, hv, rfl⟩ := List.mem_map.1 harranged
    obtain ⟨l, hl, hexpanded⟩ := mem_arrange.1 hl'
    have hcontent : l'.content = l.content := Location.content_expand hexpanded
    have hfound : locationsAt? hosts v.hostname = some v.locations := by
      rw [locationsAt?, hnamed.get?_of_mem hv, Option.map_some]
    refine ⟨v.locations, hfound, l, hl, ?_, ?_, ?_⟩
    · rw [← Location.map_path_expand]
      exact List.mem_map_of_mem hexpanded
    · rw [← l.content_isFallback, ← hcontent]
      exact hfallback
    · rw [← l.content_owner, ← hcontent]
      exact howner
  · rintro ⟨_, hls, l, hl, hpath, hfallback, howner⟩
    obtain ⟨v, hv, rfl⟩ := Option.map_eq_some_iff.1 hls
    rw [← Location.map_path_expand] at hpath
    obtain ⟨l', hexpanded, rfl⟩ := List.mem_map.1 hpath
    have hcontent : l'.content = l.content := Location.content_expand hexpanded
    refine ⟨v.arrange, List.mem_map_of_mem (Table.mem_values.2 ⟨host, hv⟩), hnamed host v hv,
      l', mem_arrange.2 ⟨l, hl, hexpanded⟩, rfl, ?_, ?_⟩
    · rw [← l'.content_isFallback, hcontent]
      exact hfallback
    · rw [← l'.content_owner, hcontent]
      exact howner

theorem mem_ownersAt_synthesize :
    owner ∈ (store.synthesize now defaultService resources).configuration.ownersAt host path ↔
      owner ∈ servers
        (store.unexpanded now defaultService (admissible store.settings resources)).hosts host path :=
  Configuration.mem_ownersAt_arranged Store.unexpanded_hosts_named rfl

/-- There is a conflict exactly if a path that the candidate claims is contested. -/
theorem conflict?_isSome_iff :
    ((store.synthesize now defaultService resources).configuration.conflict? candidate).isSome ↔
      ∃ claim ∈ candidate.pathClaims, Contested
        (store.unexpanded now defaultService (admissible store.settings resources)).hosts
        candidate.owner claim.host claim.path := by
  unfold Configuration.conflict? Contested
  simp only [List.findSome?_isSome_iff, Option.isSome_map, Configuration.rivalAt?_isSome_iff,
    mem_ownersAt_synthesize]

theorem Validator.prepare_isConflict_iff (v : Validator) (store : Store) (now : Instant)
    (candidate : Ingress) :
    (∃ found, v.prepare store now candidate = .error (.conflict found)) ↔
      (v.screening store).violation? candidate = none ∧
        ((store.synthesize now v.defaultService (store.listingWith
          (store.routed candidate.setDefaultPathType))).configuration.conflict?
            (store.routed candidate.setDefaultPathType)).isSome := by
  unfold prepare
  split
  next violation hviolation =>
    simp only [hviolation, Except.error.injEq, reduceCtorEq, exists_false, false_and]
  next hscreened =>
    dsimp only
    split
    next found hfound =>
      simp only [hscreened, hfound, Except.error.injEq, AdmissionError.conflict.injEq, exists_eq',
        Option.isSome_some, and_self]
    next hfree =>
      split <;> simp only [hfree, reduceCtorEq, exists_false, Option.isSome_none, Bool.false_eq_true, and_false]

theorem Validator.probe_ne_conflict (v : Validator) (settings : Settings) (files : FileTree)
    (prepared : Prepared) (found : Conflict) :
    (v.probe settings files prepared).verdict ≠ .error (.conflict found) := by
  unfold probe
  split
  · simp
  · split
    · simp
    · dsimp only
      split <;> simp

end IngressPlane
