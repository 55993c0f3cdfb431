import IngressPlane.Proofs.Admission.Prepared
import IngressPlane.Proofs.Synthesis.Ownership

/-! Whether a candidate takes a path from another ingress. It does not, whatever it claims in its rules; the
overlap check is not needed for that. But a candidate without rules takes the root of the catch-all host, and
that check, which looks at rules only, does not see it (`owns_listingWith`). -/
namespace IngressPlane

variable {host : String} {key : String × PathType} {owner : Owner}

theorem takes_admissible {settings : Settings} {resources : List RoutedIngress} {c : RoutedIngress} :
    Takes (admissible settings resources) (c.counted settings) host key ↔ Takes resources c host key := by
  unfold Takes
  rw [RoutedIngress.counted_isCanary, RoutedIngress.counted_wantsRoot, primaries_admissible]
  simp [RoutedIngress.counted_wantsRoot]

/-- With a candidate behind all other ingresses each path that one of them owns has one owner: the same, or
the candidate if it takes the root of the catch-all host. -/
theorem owns_listingWith (store : Store) (now : Instant) (defaultService : Option String)
    (candidate : RoutedIngress)
    (h : Owns (store.unexpanded now defaultService (admissible store.settings
      (store.listing.filter (·.key ≠ candidate.key)))).hosts host key owner) :
    ∃ kept, (kept = owner ∧ ¬ Takes (store.listing.filter (·.key ≠ candidate.key)) candidate host key ∨
        kept = candidate.owner ∧ Takes (store.listing.filter (·.key ≠ candidate.key)) candidate host key) ∧
      ∀ other, Owns (store.unexpanded now defaultService (admissible store.settings
        (store.listingWith candidate))).hosts host key other ↔ other = kept := by
  rw [owns_unexpanded] at h
  have hwith : admissible store.settings (store.listingWith candidate) =
      admissible store.settings (store.listing.filter (·.key ≠ candidate.key)) ++
        [candidate.counted store.settings] := by
    rw [admissible_eq, admissible_eq, Store.listingWith, List.map_append, List.map_singleton]
  simp only [owns_unexpanded, hwith]
  rcases h.append (c := candidate.counted store.settings) with ⟨hnot, howns⟩ | ⟨htakes, howns⟩
  · rw [takes_admissible] at hnot
    refine ⟨owner, .inl ⟨rfl, hnot⟩, fun other => ⟨fun hother => hother.unique howns, ?_⟩⟩
    rintro rfl
    exact howns
  · rw [takes_admissible] at htakes
    rw [RoutedIngress.counted_owner] at howns
    refine ⟨candidate.owner, .inr ⟨rfl, htakes⟩, fun other => ⟨fun hother => hother.unique howns, ?_⟩⟩
    rintro rfl
    exact howns

/-- A path that stays with the ingress that owns it when a candidate for another host is tested. -/
theorem owns_listingWith_of_two :
    let store := Store.holding (rootIngress "ns" "old" "a.com" "web")
    let old := store.routed (rootIngress "ns" "old" "a.com" "web")
    let new := store.routed (rootIngress "ns" "new" "b.com" "web")
    Owns (store.unexpanded ⟨0, 0⟩ none (admissible store.settings (store.listingWith new))).hosts
      "a.com" rootKey old.owner := by
  intro store old new
  have hbefore : Owns (store.unexpanded ⟨0, 0⟩ none (admissible store.settings
      (store.listing.filter (·.key ≠ new.key)))).hosts "a.com" rootKey old.owner := by
    decide +kernel
  obtain ⟨kept, hkept, howns⟩ := owns_listingWith store ⟨0, 0⟩ none new hbefore
  rcases hkept with ⟨rfl, _⟩ | ⟨_, htakes⟩
  · exact (howns old.owner).2 rfl
  · exact absurd htakes (by decide +kernel)

def defaultIngress (scope name service : String) : Ingress :=
  { metadata := { scope := some scope, name := some name }
    spec := {
      defaultBackend := some { service := some { name := service, port := some { number := some 80 } } } } }

/-- A candidate that is admitted and takes the root of the catch-all host from a rule. -/
theorem taken_root :
    let store := Store.holding (rootIngress "ns1" "site" "" "web")
    let site := store.routed (rootIngress "ns1" "site" "" "web")
    let taker := store.routed (defaultIngress "ns2" "taker" "trap")
    (({ checker := fun _ => .ok () } : Validator).validate store ⟨0, 0⟩ {} taker.ingress).verdict.isOk ∧
      site.owner.canary = none ∧ taker.owner.canary = none ∧ site.key ≠ taker.key ∧
      Owns (store.unexpanded ⟨0, 0⟩ none (admissible store.settings
        (store.listing.filter (·.key ≠ taker.key)))).hosts catchAllHost rootKey site.owner ∧
      ¬ Owns (store.unexpanded ⟨0, 0⟩ none (admissible store.settings
        (store.listingWith taker))).hosts catchAllHost rootKey site.owner := by
  decide +kernel

end IngressPlane
