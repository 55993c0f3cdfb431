import IngressPlane.Proofs.Synthesis.Affinity
import IngressPlane.Proofs.Synthesis.FirstCome

/-! The paths that a cookie is listed with. A backend lists the path of each claim on it that asks for cookies,
under all names of the host, and nothing else (`lists_wired`). A path that is served with a cookie is won by such a
claim, so it is listed; but claims that lose their paths are listed too (`wired_cookiePaths`). -/
namespace IngressPlane

variable {hosts : Table VirtualHost} {name host path : String} {a : BackendAffinity} {b : Backend}
  {claimed : RoutedIngress × PathClaim} {claims : List (RoutedIngress × PathClaim)} {store : Store} {now : Instant}
  {defaultService : Option String} {resources : List RoutedIngress}

def BackendAffinity.lists (a : BackendAffinity) (host path : String) : Prop :=
  path ∈ (a.cookie.locations.get? host).getD []

theorem mem_addPath (c : BackendCookie) (names : List String) (p : String) :
    path ∈ ((c.addPath names p).locations.get? host).getD [] ↔
      path ∈ (c.locations.get? host).getD [] ∨ host ∈ names ∧ path = p := by
  unfold BackendCookie.addPath
  dsimp only
  generalize c.locations = t
  induction names generalizing t with
  | nil => simp
  | cons name names ih =>
    rw [List.foldl_cons, ih, Table.get?_insert]
    by_cases hname : name = host
    · subst hname
      have honce : path = p ∨ name ∈ names ∧ path = p ↔ path = p := or_iff_left_of_imp And.right
      simp [or_assoc, honce]
    · simp [hname, Ne.symm hname]

theorem lists_adoptClaim : (adoptClaim hosts a claimed).lists host path ↔ a.lists host path ∨
    claimed.1.policy.affinity.kind = "cookie" ∧ host ∈ namesAt hosts claimed.2.host ∧ path = claimed.2.path := by
  unfold BackendAffinity.lists adoptClaim BackendAffinity.adopt
  have hadopt : (a.cookie.adopt claimed.1.policy.affinity.cookie).locations = a.cookie.locations := by
    unfold BackendCookie.adopt
    split <;> rfl
  by_cases hkind : claimed.1.policy.affinity.kind = "cookie"
  · simp only [hkind, if_true, true_and]
    rw [mem_addPath, hadopt]
  · simp [hkind]

theorem lists_foldl_adoptClaim : (claims.foldl (adoptClaim hosts) a).lists host path ↔ a.lists host path ∨
    ∃ claimed ∈ claims, claimed.1.policy.affinity.kind = "cookie" ∧
      host ∈ namesAt hosts claimed.2.host ∧ path = claimed.2.path := by
  induction claims generalizing a with
  | nil => simp
  | cons claimed claims ih =>
    rw [List.foldl_cons, ih, lists_adoptClaim, or_assoc]
    simp only [List.mem_cons, exists_eq_or_imp]

namespace Store

/-- A claim that asks for cookies, on a backend with a server and a path of a host with this name. -/
structure IsCookieClaim (store : Store) (now : Instant) (defaultService : Option String)
    (resources : List RoutedIngress) (name host path : String) (claimed : RoutedIngress × PathClaim) : Prop where
  mem : claimed ∈ allClaims resources
  on : isOn (store.built now defaultService resources).backends name claimed
  cookie : claimed.1.policy.affinity.kind = "cookie"
  named : host ∈ namesAt (store.wired now defaultService resources).hosts claimed.2.host
  path : claimed.2.path = path

theorem lists_wired (h : (store.wired now defaultService resources).backends.get? name = some b) :
    b.affinity.lists host path ↔
      ∃ claimed, store.IsCookieClaim now defaultService resources name host path claimed := by
  have hnone : ¬ ({} : BackendAffinity).lists host path := by simp [BackendAffinity.lists]
  rw [affinity_wired h, lists_foldl_adoptClaim, or_iff_right hnone]
  constructor
  · rintro ⟨claimed, hclaimed, hkind, hhost, rfl⟩
    obtain ⟨hmem, hon⟩ := List.mem_filter.1 hclaimed
    exact ⟨claimed, hmem, hon, hkind, hhost, rfl⟩
  · rintro ⟨claimed, hmem, hon, hkind, hhost, rfl⟩
    exact ⟨claimed, List.mem_filter.2 ⟨hmem, hon⟩, hkind, hhost, rfl⟩

/-- Some host with this name has a location at the path, on this backend, which a claim of an ingress that asks for
cookies has won. -/
def Serves (store : Store) (now : Instant) (defaultService : Option String) (resources : List RoutedIngress)
    (name host path : String) : Prop :=
  ∃ v ∈ (store.wired now defaultService resources).hosts.values, host ∈ v.hostname :: v.aliases ∧
    ∃ l ∈ v.locations, l.path = path ∧ l.isFallback = false ∧ l.backend = name ∧
      ∃ claimed, (store.built now defaultService resources).winner? (allClaims resources) v.hostname l.key =
          some claimed ∧
        l.owner = some claimed.1.owner ∧ claimed.1.policy.affinity.kind = "cookie"

/-- A claim whose path belongs to another one, or to an ingress without rules. -/
def Loses (store : Store) (now : Instant) (defaultService : Option String) (resources : List RoutedIngress)
    (claimed : RoutedIngress × PathClaim) : Prop :=
  (store.built now defaultService resources).winner? (allClaims resources) claimed.2.host claimed.2.key ≠
      some claimed ∧
    ∃ l, locationAt? (store.wired now defaultService resources).hosts claimed.2.host claimed.2.key = some l ∧
      l.isFallback = false

theorem loses_of_not_wins (hmem : claimed ∈ allClaims resources)
    (hwin : canWin (store.built now defaultService resources).backends claimed)
    (hnot : (store.built now defaultService resources).winner? (allClaims resources) claimed.2.host claimed.2.key ≠
      some claimed) :
    store.Loses now defaultService resources claimed := by
  refine ⟨hnot, ?_⟩
  cases hwinner : (store.built now defaultService resources).winner? (allClaims resources) claimed.2.host
      claimed.2.key with
  | some other =>
    obtain ⟨l, hl, htaken, _⟩ := locationAt?_of_winner hwinner
    exact ⟨l, hl, htaken⟩
  | none =>
    -- this claim could win the path if it were free, so it was taken before any claim
    have htaken : (store.built now defaultService resources).isFree claimed.2.host claimed.2.key = false := by
      rw [← Bool.not_eq_true]
      intro hfree
      unfold Draft.winner? at hwinner
      rw [if_pos hfree] at hwinner
      simpa [hwin] using List.find?_eq_none.1 hwinner claimed hmem
    unfold Draft.isFree at htaken
    rw [contains_built_of_claim store now defaultService hmem, Bool.true_and] at htaken
    rw [locationAt?_wired, hwinner, Option.map_none, Option.getD_none]
    cases hat : locationAt? (store.built now defaultService resources).hosts claimed.2.host claimed.2.key with
    | none => simp [hat] at htaken
    | some l => exact ⟨l, rfl, by simpa [hat] using htaken⟩

theorem serves_of_wins (hclaim : store.IsCookieClaim now defaultService resources name host path claimed)
    (hwins : (store.built now defaultService resources).winner? (allClaims resources) claimed.2.host claimed.2.key =
      some claimed) :
    store.Serves now defaultService resources name host path := by
  obtain ⟨l, hl, htaken, howner, hbackend⟩ := locationAt?_of_winner hwins
  obtain ⟨v, hv, hfind⟩ := locationAt?_eq_some_iff.1 hl
  have hname : v.hostname = claimed.2.host := wired_hosts_named store now defaultService resources _ v hv
  have hkey : l.key = claimed.2.key := by simpa using List.find?_some hfind
  have hhost : host ∈ v.hostname :: v.aliases := by
    have hnamed := hclaim.named
    rwa [namesAt, hv, Option.map_some, Option.getD_some, ← hname] at hnamed
  have hon : claimedName claimed = name := of_decide_eq_true (Bool.and_eq_true_iff.1 hclaim.on).1
  refine ⟨v, Table.mem_values.2 ⟨_, hv⟩, hhost, l, List.mem_of_find?_eq_some hfind,
    (Prod.mk.inj hkey).1.trans hclaim.path, htaken, hbackend.trans hon, claimed, ?_, howner, hclaim.cookie⟩
  rw [hname, hkey]
  exact hwins

theorem isCookieClaim_of_serves (h : store.Serves now defaultService resources name host path) :
    ∃ claimed, store.IsCookieClaim now defaultService resources name host path claimed := by
  obtain ⟨v, hv, hhost, l, hl, hpath, _, hbackend, claimed, hwinner, _, hcookie⟩ := h
  have hget : (store.wired now defaultService resources).hosts.get? v.hostname = some v :=
    (wired_hosts_named store now defaultService resources).get?_of_mem hv
  obtain ⟨hmem, hclaimHost, hkey, hwin, _⟩ := Draft.winner?_spec hwinner
  -- the host has one location at this path, and it leads where the winner does
  obtain ⟨won, hwon, _, _, hwonBackend⟩ := locationAt?_of_winner hwinner
  have hls : locationsAt? (store.wired now defaultService resources).hosts v.hostname = some v.locations := by
    rw [locationsAt?, hget, Option.map_some]
  have hat : locationAt? (store.wired now defaultService resources).hosts v.hostname l.key = some l := by
    rw [locationAt?, hls, Option.bind_some]
    exact find?_key_of_mem (nodup_wired hls) hl rfl
  obtain rfl : l = won := Option.some.inj (hat.symm.trans hwon)
  refine ⟨claimed, hmem, ?_, hcookie, ?_, (Prod.mk.inj hkey).1.trans hpath⟩
  · rw [isOn, hwin, Bool.and_true]
    exact decide_eq_true (hwonBackend.symm.trans hbackend)
  · rw [namesAt, hclaimHost, hget]
    exact hhost

/-- A path is listed under a name of a host exactly if it is served with a cookie there, or a claim that asks for
cookies has lost it. -/
theorem wired_cookiePaths (h : (store.wired now defaultService resources).backends.get? name = some b) :
    b.affinity.lists host path ↔ store.Serves now defaultService resources name host path ∨
      ∃ claimed, store.IsCookieClaim now defaultService resources name host path claimed ∧
        store.Loses now defaultService resources claimed := by
  rw [lists_wired h]
  constructor
  · rintro ⟨claimed, hclaim⟩
    by_cases hwins : (store.built now defaultService resources).winner? (allClaims resources) claimed.2.host
        claimed.2.key = some claimed
    · exact .inl (serves_of_wins hclaim hwins)
    · exact .inr ⟨claimed, hclaim, loses_of_not_wins hclaim.mem (Bool.and_eq_true_iff.1 hclaim.on).2 hwins⟩
  · rintro (hserves | ⟨claimed, hclaim, _⟩)
    · exact isCookieClaim_of_serves hserves
    · exact ⟨claimed, hclaim⟩

/-- The second ingress for the root of a host asks for cookies. Its own backend lists the root, which it does not
serve. -/
theorem wired_cookiePaths_of_two :
    let store := Store.withOptions {}
    let site := store.routed (rootIngress "ns" "site" "a.com" "web")
    let late := store.routed (annotated (rootIngress "ns" "late" "a.com" "api") "affinity" "cookie")
    ∃ b, (store.wired ⟨0, 0⟩ none [site, late]).backends.get? "ns-api-80" = some b ∧
      b.affinity.lists "a.com" "/" ∧ ¬ store.Serves ⟨0, 0⟩ none [site, late] "ns-api-80" "a.com" "/" := by
  intro store site late
  let root : RoutedIngress × PathClaim :=
    (late, ⟨"a.com", "/", .under, { name := "api", port := some { number := some 80 } }⟩)
  have hthere : (store.wired ⟨0, 0⟩ none [site, late]).backends.contains "ns-api-80" := by decide +kernel
  have hclaim : store.IsCookieClaim ⟨0, 0⟩ none [site, late] "ns-api-80" "a.com" "/" root :=
    ⟨by decide +kernel, by decide +kernel, by decide +kernel, by decide +kernel, rfl⟩
  have hnot : (store.built ⟨0, 0⟩ none [site, late]).winner? (allClaims [site, late]) "a.com" root.2.key ≠
      some root := by decide +kernel
  have helse : ∀ v ∈ (store.wired ⟨0, 0⟩ none [site, late]).hosts.values, ∀ l ∈ v.locations,
      l.backend ≠ "ns-api-80" := by decide +kernel
  obtain ⟨b, hb⟩ := Table.contains_iff.1 hthere
  refine ⟨b, hb, (wired_cookiePaths hb).2 (.inr ⟨root, hclaim, loses_of_not_wins hclaim.mem ?_ hnot⟩), ?_⟩
  · exact (Bool.and_eq_true_iff.1 hclaim.on).2
  · rintro ⟨v, hv, _, l, hl, _, _, hbackend, _⟩
    exact helse v hv l hl hbackend

end Store
end IngressPlane
