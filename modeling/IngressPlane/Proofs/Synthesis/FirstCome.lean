import IngressPlane.Proofs.Store.Keyed
import IngressPlane.Proofs.Synthesis.Ownership
import IngressPlane.Proofs.Synthesis.Winners

/-! First come, first served. The first claim on a path that can win it makes its location, and each later
one is reported and changes no host (`wired_first_come`). Only the root of the catch-all host is given away
differently: an ingress without rules has it before any rule is wired. -/
namespace IngressPlane

variable {store : Store} {now : Instant} {defaultService : Option String} {resources : List RoutedIngress}
  {backends : Table Backend} {host : String} {key : String × PathType} {l : Location}
  {claimed first : RoutedIngress × PathClaim} {claims : List (RoutedIngress × PathClaim)}

/-- Whether a claim is on a path of a host and can win it. -/
def contends (backends : Table Backend) (host : String) (key : String × PathType)
    (claimed : RoutedIngress × PathClaim) : Bool :=
  claimed.2.host = host && (claimed.2.key = key && canWin backends claimed)

theorem contends_iff : contends backends host key claimed = true ↔
    claimed.2.host = host ∧ claimed.2.key = key ∧ canWin backends claimed = true := by
  simp [contends]

theorem locationAt?_eq_some_iff {hosts : Table VirtualHost} : locationAt? hosts host key = some l ↔
    ∃ v, hosts.get? host = some v ∧ v.locations.find? (·.key = key) = some l := by
  simp [locationAt?, locationsAt?, Option.bind_eq_some_iff]

namespace VirtualHost

variable {v : VirtualHost} {r : RoutedIngress} {claim : PathClaim} {backend : Backend}

theorem claim_taken (hfind : v.locations.find? claim.isFor = some l) (htaken : l.isFallback = false) :
    v.claim r claim backend = (v, [.duplicateLocation claim.host claim.path l.backend r.key]) := by
  simp only [VirtualHost.claim, hfind, htaken, Bool.false_eq_true, if_false]

theorem claim_free_notes (hfree : (v.locations.find? claim.isFor).all (·.isFallback)) :
    (v.claim r claim backend).2 = [] := by
  unfold VirtualHost.claim
  cases hfind : v.locations.find? claim.isFor with
  | none => rfl
  | some l =>
    rw [hfind, Option.all_some] at hfree
    simp only [hfree, if_true]

end VirtualHost

namespace Draft

variable {d : Draft}

theorem canWin_foldl_wire (claims : List (RoutedIngress × PathClaim)) (d : Draft) :
    canWin (claims.foldl wire d).backends = canWin d.backends := by
  funext claimed
  rw [← canWin_bare, foldl_wire_bare, canWin_bare]

theorem targetHost_foldl_wire (claims : List (RoutedIngress × PathClaim)) (d : Draft) :
    (claims.foldl wire d).targetHost = d.targetHost :=
  List.foldlRecOn (motive := fun d' : Draft => d'.targetHost = d.targetHost) claims wire rfl
    fun d' h claimed _ => (targetHost_wire d' claimed).trans h

theorem wire_taken (hfind : locationAt? d.hosts (d.targetHost claimed.2) claimed.2.key = some l)
    (htaken : l.isFallback = false) (hwin : canWin d.backends claimed) :
    (d.wire claimed).hosts = d.hosts ∧ (d.wire claimed).notes = d.notes ++
      [.duplicateLocation claimed.2.host claimed.2.path l.backend claimed.1.key] := by
  obtain ⟨v, hv, hl⟩ := locationAt?_eq_some_iff.1 hfind
  rcases d.wire_cases claimed with ⟨_, hunserved⟩ | ⟨w, backend, hw, _, _, hwire⟩
  · rw [not_canWin_of_unserved (hunserved (by rw [hv]; rfl))] at hwin
    cases hwin
  · obtain rfl : v = w := Option.some.inj (hv.symm.trans hw)
    rw [← PathClaim.isFor_eq] at hl
    rw [hwire, VirtualHost.claim_taken hl htaken]
    exact ⟨Table.insert_of_get? hv, rfl⟩

theorem wire_free_notes
    (hfree : (locationAt? d.hosts (d.targetHost claimed.2) claimed.2.key).all (·.isFallback)) :
    (d.wire claimed).notes = d.notes := by
  rcases d.wire_cases claimed with ⟨hself, _⟩ | ⟨v, backend, hv, _, _, hwire⟩
  · rw [hself]
  · have hfind : (v.locations.find? claimed.2.isFor).all (·.isFallback) := by
      simpa [locationAt?, locationsAt?, hv, PathClaim.isFor_eq] using hfree
    rw [hwire, VirtualHost.claim_free_notes hfind, List.append_nil]

end Draft

/-- Whether a location is the one that a claimed path makes on its backend. -/
structure Location.IsMadeBy (l : Location) (claimed : RoutedIngress × PathClaim) (target : Backend) : Prop where
  path : l.path = claimed.2.path
  ingressPath : l.ingressPath = claimed.2.path
  pathType : l.pathType = claimed.2.pathType
  isFallback : l.isFallback = false
  backend : l.backend = target.name
  service : l.service = target.service
  port : l.port = claimed.2.service.portKey?
  owner : l.owner = some claimed.1.owner
  policy : l.policy.Copies claimed.1.policy
  standIn : l.standIn = ""

theorem isMadeBy_ofClaim (claimed : RoutedIngress × PathClaim) (backend : Backend) :
    (Location.ofClaim claimed.1 claimed.2 backend).IsMadeBy claimed backend where
  path := rfl
  ingressPath := rfl
  pathType := rfl
  isFallback := rfl
  backend := rfl
  service := rfl
  port := rfl
  owner := rfl
  policy := claimed.1.policy.copies_forLocation
  standIn := rfl

theorem filter_key_of_find? {ls : List Location} (hnodup : (ls.map Location.key).Nodup)
    (hfind : ls.find? (·.key = key) = some l) : ls.filter (·.key = key) = [l] := by
  obtain ⟨before, after, rfl, hbefore⟩ := (List.find?_eq_some_iff_append.1 hfind).2
  have hkey : l.key = key := by simpa using List.find?_some hfind
  rw [List.map_append, List.map_cons, List.nodup_append, List.nodup_cons] at hnodup
  have hafter : ∀ l' ∈ after, ¬ decide (l'.key = key) = true := fun l' hl' heq =>
    hnodup.2.1.1 (List.mem_map.2 ⟨l', hl', (of_decide_eq_true heq).trans hkey.symm⟩)
  rw [List.filter_append, List.filter_cons, if_pos (decide_eq_true hkey),
    List.filter_eq_nil_iff.2 (by simpa using hbefore), List.filter_eq_nil_iff.2 hafter, List.nil_append]

theorem RoutedIngress.placeholder_claimed (r : RoutedIngress) (target : String)
    (hkey : claimed.2.key = rootKey) (backend : Backend) :
    (r.placeholder target).claimed claimed.1 claimed.2 backend = .ofClaim claimed.1 claimed.2 backend := by
  obtain ⟨hpath, hpathType⟩ := Prod.mk.inj hkey
  unfold Location.ofClaim
  rw [hpath, hpathType]
  rfl

namespace Store

theorem locationAt?_built_cases (store : Store) (now : Instant) (defaultService : Option String)
    (resources : List RoutedIngress) (hroot : ¬ (host = catchAllHost ∧ key = rootKey)) :
    locationAt? (store.built now defaultService resources).hosts host key = none ∨
      key = rootKey ∧ ∃ r ∈ primaries resources,
        locationAt? (store.built now defaultService resources).hosts host key =
          some (r.placeholder (r.fallbackName (store.built now defaultService resources).backends
            (store.fallback defaultService))) := by
  unfold locationAt?
  rw [locationsAt?_built]
  cases hopened : locationsAt? (openedHosts store resources
      (store.built now defaultService resources).backends (store.fallback defaultService)) host with
  | none => exact .inl rfl
  | some ls =>
    obtain ⟨root, rfl, hopen⟩ := openedHosts_cases hopened
    by_cases hkey : key = rootKey
    · subst hkey
      have hfind : [root].find? (·.key = rootKey) = some root := by simp [hopen.key]
      rw [Option.bind_some, hfind]
      cases hopen with
      | placeholder hr _ _ => exact .inr ⟨rfl, _, hr, rfl⟩
      | catchAll => exact (hroot ⟨rfl, rfl⟩).elim
      | taken _ _ _ => exact (hroot ⟨rfl, rfl⟩).elim
    · left
      simp [hopen.key, Ne.symm hkey]

theorem locationAt?_unclaimed (hclaims : ∀ claimed ∈ claims, claimed ∈ allClaims resources)
    (hnone : claims.find? (contends (store.built now defaultService resources).backends host key) = none) :
    locationAt? (claims.foldl Draft.wire (store.built now defaultService resources)).hosts host key =
      locationAt? (store.built now defaultService resources).hosts host key := by
  have hwinner : (store.built now defaultService resources).winner? claims host key = none := by
    unfold Draft.winner?
    split
    · exact hnone
    · rfl
  rw [Draft.locationAt?_foldl_wire fun claimed hclaimed =>
    targetHost_built store now defaultService (hclaims claimed hclaimed), hwinner]
  rfl

/-- A path is as the first claim that can win it makes it. -/
theorem locationAt?_claimed (hroot : ¬ (host = catchAllHost ∧ key = rootKey))
    (hclaims : ∀ claimed ∈ claims, claimed ∈ allClaims resources)
    (hfirst : claims.find? (contends (store.built now defaultService resources).backends host key) =
      some first) :
    ∃ backend, (store.built now defaultService resources).backends.get? (claimedName first) = some backend ∧
      locationAt? (claims.foldl Draft.wire (store.built now defaultService resources)).hosts host key =
        some (.ofClaim first.1 first.2 backend) := by
  obtain ⟨hhost, hkey, hwin⟩ := contends_iff.1 (List.find?_some hfirst)
  have hthere : (store.built now defaultService resources).hosts.contains host = true :=
    hhost ▸ contains_built_of_claim store now defaultService (hclaims first (List.mem_of_find?_eq_some hfirst))
  obtain ⟨backend, hbackend, hserver⟩ := (Option.any_eq_true _ _).1 hwin
  have hserver : backend.noServer = false := by simpa using hserver
  have hopen := locationAt?_built_cases store now defaultService resources hroot
  have hfree : (store.built now defaultService resources).isFree host key = true := by
    unfold Draft.isFree
    rw [hthere, Bool.true_and]
    rcases hopen with hnone | ⟨_, r, _, hsome⟩
    · rw [hnone]; rfl
    · rw [hsome]; rfl
  have hwinner : (store.built now defaultService resources).winner? claims host key = some first := by
    unfold Draft.winner?
    rw [if_pos hfree]
    exact hfirst
  refine ⟨backend, hbackend, ?_⟩
  rw [Draft.locationAt?_foldl_wire fun claimed hclaimed =>
    targetHost_built store now defaultService (hclaims claimed hclaimed), hwinner, Option.map_some,
    Option.getD_some]
  unfold occupy
  simp only [hbackend, hserver, Bool.false_eq_true, if_false]
  rcases hopen with hnone | ⟨hrootKey, r, _, hsome⟩
  · rw [hnone]
  · rw [hsome]
    exact congrArg some (r.placeholder_claimed _ (hkey.trans hrootKey) backend)

theorem wire_contender (hroot : ¬ (host = catchAllHost ∧ key = rootKey))
    (hclaims : ∀ c ∈ claims, c ∈ allClaims resources) (hclaimed : claimed ∈ allClaims resources)
    (hwants : contends (store.built now defaultService resources).backends host key claimed) :
    let d := claims.foldl Draft.wire (store.built now defaultService resources)
    let earlier := claims.find? (contends (store.built now defaultService resources).backends host key)
    (earlier = none → (d.wire claimed).notes = d.notes) ∧
      ∀ first, earlier = some first → (d.wire claimed).hosts = d.hosts ∧ (d.wire claimed).notes = d.notes ++
        [.duplicateLocation host key.1 (claimedName first) claimed.1.key] := by
  intro d earlier
  obtain ⟨rfl, rfl, hwin⟩ := contends_iff.1 hwants
  have htarget : d.targetHost claimed.2 = claimed.2.host := by
    rw [Draft.targetHost_foldl_wire, targetHost_built store now defaultService hclaimed]
  refine ⟨fun hnone => Draft.wire_free_notes ?_, fun first hfirst => ?_⟩
  · rw [htarget, locationAt?_unclaimed hclaims hnone]
    rcases locationAt?_built_cases store now defaultService resources hroot with
      hempty | ⟨_, r, _, hplaceholder⟩
    · rw [hempty]; rfl
    · rw [hplaceholder]; rfl
  · obtain ⟨backend, hbackend, hat⟩ := locationAt?_claimed hroot hclaims hfirst
    have hname : backend.name = claimedName first := buildBackends_named store resources _ _ _ hbackend
    have hcan : canWin d.backends claimed = true := by
      rw [Draft.canWin_foldl_wire]
      exact hwin
    rw [← hname]
    exact Draft.wire_taken (by rw [htarget]; exact hat) rfl hcan

end Store
end IngressPlane
