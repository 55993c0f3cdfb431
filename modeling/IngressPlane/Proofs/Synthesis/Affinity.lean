import IngressPlane.Proofs.Store.Keyed
import IngressPlane.Proofs.Synthesis.HostFields
import IngressPlane.Proofs.Synthesis.Winners

/-! Session affinity. A backend takes it on from the claims that are on it, one after another
(`affinity_wired`). Its kind, its mode and its cookie are each the first that is set, so they need not come from
one ingress: annotations may leave the kind unset, but never the mode (`wired_affinity`). -/
namespace IngressPlane

variable {d : Draft} {backends : Table Backend} {hosts : Table VirtualHost} {name : String}
  {claimed : RoutedIngress × PathClaim} {claims : List (RoutedIngress × PathClaim)} {store : Store} {now : Instant}
  {defaultService : Option String} {resources : List RoutedIngress} {a : BackendAffinity} {b : Backend}

def namesAt (hosts : Table VirtualHost) (host : String) : List String :=
  host :: ((hosts.get? host).map (·.aliases)).getD []

def adoptClaim (hosts : Table VirtualHost) (a : BackendAffinity) (claimed : RoutedIngress × PathClaim) :
    BackendAffinity :=
  a.adopt claimed.1.policy.affinity (namesAt hosts claimed.2.host) claimed.2.path

/-- Whether a claim is on a backend of this name, which has a server. -/
def isOn (backends : Table Backend) (name : String) (claimed : RoutedIngress × PathClaim) : Bool :=
  claimedName claimed = name && canWin backends claimed

theorem namesAt_shell (hosts : Table VirtualHost) :
    namesAt (hosts.map VirtualHost.shell) = namesAt hosts := by
  funext host
  unfold namesAt
  rw [Table.get?_map, Option.map_map]
  rfl

namespace Draft

theorem namesAt_foldl_wire (claims : List (RoutedIngress × PathClaim)) (d : Draft) :
    namesAt (claims.foldl wire d).hosts = namesAt d.hosts := by
  rw [← namesAt_shell, foldl_wire_shell, namesAt_shell]

theorem affinity_wire (hopen : d.hosts.contains claimed.2.host) (name : String) :
    ((d.wire claimed).backends.get? name).map (·.affinity) = (d.backends.get? name).map fun b =>
      if isOn d.backends name claimed then adoptClaim d.hosts b.affinity claimed else b.affinity := by
  have htarget : d.targetHost claimed.2 = claimed.2.host := if_pos hopen
  rcases d.wire_cases claimed with ⟨hself, hunserved⟩ | ⟨v, backend, hv, hbackend, hserver, hwire⟩
  · have hoff : isOn d.backends name claimed = false := by
      rw [htarget] at hunserved
      rw [isOn, not_canWin_of_unserved (hunserved hopen), Bool.and_false]
    rw [hself, hoff]
    rfl
  · have hwin : canWin d.backends claimed = true := by simp [canWin, hbackend, hserver]
    rw [hwire, Table.get?_insert, isOn, hwin, Bool.and_true]
    split
    next hname =>
      subst hname
      have hnames : namesAt d.hosts claimed.2.host =
          claimed.2.host :: (v.claim claimed.1 claimed.2 backend).1.aliases := by
        rw [htarget] at hv
        rw [namesAt, hv]
        exact congrArg (claimed.2.host :: ·) (congrArg VirtualHost.aliases
          (v.claim_shell claimed.1 claimed.2 backend)).symm
      simp [hbackend, adoptClaim, hnames]
    next hname => simp [hname]

/-- The affinity of a backend after wiring: the claims on it are adopted in order. -/
theorem affinity_foldl_wire (hopen : ∀ claimed ∈ claims, d.hosts.contains claimed.2.host) (name : String) :
    ((claims.foldl wire d).backends.get? name).map (·.affinity) = (d.backends.get? name).map fun b =>
      (claims.filter (isOn d.backends name)).foldl (adoptClaim d.hosts) b.affinity := by
  induction claims generalizing d with
  | nil => rfl
  | cons claimed claims ih =>
    have hon : isOn (d.wire claimed).backends = isOn d.backends := by
      funext name c
      rw [isOn, ← canWin_bare, wire_bare, canWin_bare, isOn]
    have hadopt : adoptClaim (d.wire claimed).hosts = adoptClaim d.hosts := by
      funext a c
      rw [adoptClaim, ← namesAt_shell, wire_shell, namesAt_shell, adoptClaim]
    have hrest : ∀ c ∈ claims, (d.wire claimed).hosts.contains c.2.host := fun c hc => by
      rw [contains_wire]
      exact hopen c (.tail _ hc)
    have hstep := congrArg (Option.map fun a => (claims.filter (isOn d.backends name)).foldl (adoptClaim d.hosts) a)
      (affinity_wire (hopen claimed (.head _)) name)
    rw [Option.map_map, Option.map_map] at hstep
    rw [List.foldl_cons, ih hrest, hon, hadopt]
    refine hstep.trans (congrArg (Option.map · _) (funext fun b => ?_))
    rw [Function.comp_apply, List.filter_cons]
    split <;> rfl

end Draft

section Values

theorem foldl_firstText {β : Type} (f : β → String) (xs : List β) (slot : String) :
    xs.foldl (fun text x => firstText text (f x)) slot = firstSet "" (slot :: xs.map f) := by
  induction xs generalizing slot with
  | nil => exact (firstSet_singleton "" slot).symm
  | cons x xs ih => rw [List.foldl_cons, ih, HostField.merge_text, firstSet_pair, List.map_cons]

theorem foldl_adoptClaim_kind (a : BackendAffinity) :
    (claims.foldl (adoptClaim hosts) a).kind = firstSet "" (a.kind :: claims.map (·.1.policy.affinity.kind)) := by
  rw [← foldl_firstText]
  exact (List.foldl_hom BackendAffinity.kind fun _ _ => rfl).symm

theorem foldl_adoptClaim_mode (a : BackendAffinity) :
    (claims.foldl (adoptClaim hosts) a).mode = firstSet "" (a.mode :: claims.map (·.1.policy.affinity.mode)) := by
  rw [← foldl_firstText]
  exact (List.foldl_hom BackendAffinity.mode fun _ _ => rfl).symm

/-- What a policy can say of a cookie: all but the paths that set it. -/
def BackendCookie.policy (c : BackendCookie) : AffinityCookie :=
  { name := c.name
    expires := c.expires
    maxAge := c.maxAge
    path := c.path
    secure := c.secure
    sameSite := c.sameSite
    conditionalSameSiteNone := c.conditionalSameSiteNone
    changeOnFailure := c.changeOnFailure }

def AffinityPolicy.namedCookie? (p : AffinityPolicy) : Option AffinityCookie :=
  if p.kind = "cookie" ∧ p.cookie.name ≠ "" then some p.cookie else none

theorem adoptClaim_policy (hosts : Table VirtualHost) (a : BackendAffinity) (claimed : RoutedIngress × PathClaim) :
    (adoptClaim hosts a claimed).cookie.policy =
      if claimed.1.policy.affinity.kind = "cookie" ∧ a.cookie.policy.name = "" then
        claimed.1.policy.affinity.cookie
      else a.cookie.policy := by
  unfold adoptClaim BackendAffinity.adopt
  by_cases hkind : claimed.1.policy.affinity.kind = "cookie"
  · by_cases hname : a.cookie.name = "" <;>
      simp [hkind, hname, BackendCookie.policy, BackendCookie.adopt, BackendCookie.addPath]
  · simp [hkind]

theorem foldl_adoptClaim_policy_of_named (claims : List (RoutedIngress × PathClaim))
    (hset : a.cookie.policy.name ≠ "") : (claims.foldl (adoptClaim hosts) a).cookie.policy = a.cookie.policy :=
  List.foldlRecOn (motive := fun a' : BackendAffinity => a'.cookie.policy = a.cookie.policy) _ _ rfl
    fun a' h claimed _ => by rw [adoptClaim_policy, h, if_neg fun hunset => hset hunset.2]

/-- Of the cookies that claims ask for the first one with a name is taken, if there is none yet. -/
theorem foldl_adoptClaim_policy {cookie : AffinityCookie}
    (hfirst : (claims.findSome? fun claimed => claimed.1.policy.affinity.namedCookie?) = some cookie)
    (hnone : a.cookie.policy.name = "") : (claims.foldl (adoptClaim hosts) a).cookie.policy = cookie := by
  induction claims generalizing a with
  | nil => cases hfirst
  | cons claimed claims ih =>
    rw [List.findSome?_cons] at hfirst
    rw [List.foldl_cons]
    unfold AffinityPolicy.namedCookie? at hfirst
    by_cases hkind : claimed.1.policy.affinity.kind = "cookie"
    · have hnext : (adoptClaim hosts a claimed).cookie.policy = claimed.1.policy.affinity.cookie := by
        rw [adoptClaim_policy, if_pos ⟨hkind, hnone⟩]
      by_cases hname : claimed.1.policy.affinity.cookie.name = ""
      · simp only [hname, ne_eq, not_true_eq_false, and_false, if_false] at hfirst
        exact ih hfirst (by rw [hnext, hname])
      · simp only [hkind, hname, ne_eq, not_false_eq_true, and_self, if_true, Option.some.injEq] at hfirst
        rw [foldl_adoptClaim_policy_of_named _ (by rwa [hnext]), hnext, hfirst]
    · simp only [hkind, false_and, if_false] at hfirst
      exact ih hfirst (by rw [adoptClaim_policy, if_neg fun hset => hkind hset.1, hnone])

end Values

namespace Store

theorem built_affinity (h : (store.built now defaultService resources).backends.get? name = some b) :
    b.affinity = {} := by
  rcases built_backend_cases h with ⟨_, rfl⟩ | ⟨_, _, _, rfl⟩
  · obtain ⟨service, endpoints, heq⟩ := store.fallback_eq defaultService
    rw [heq]
  · rfl

theorem affinity_wired (h : (store.wired now defaultService resources).backends.get? name = some b) :
    b.affinity = ((allClaims resources).filter (isOn (store.built now defaultService resources).backends name)).foldl
      (adoptClaim (store.wired now defaultService resources).hosts) {} := by
  have hadopt : adoptClaim (store.wired now defaultService resources).hosts =
      adoptClaim (store.built now defaultService resources).hosts := by
    funext a claimed
    rw [adoptClaim, wired, Draft.addLocations, Draft.namesAt_foldl_wire, adoptClaim]
  have hopen : ∀ claimed ∈ allClaims resources,
      (store.built now defaultService resources).hosts.contains claimed.2.host :=
    fun _ hclaimed => contains_built_of_claim store now defaultService hclaimed
  have hwired := Draft.affinity_foldl_wire hopen name
  rw [← Draft.addLocations, ← wired, h, Option.map_some] at hwired
  obtain ⟨built, hbuilt, haffinity⟩ := Option.map_eq_some_iff.1 hwired.symm
  rw [hadopt, ← haffinity, built_affinity hbuilt]

/-- The ingresses with a claim on a backend, in order; none, if the backend has no server. -/
def claimants (store : Store) (now : Instant) (defaultService : Option String) (resources : List RoutedIngress)
    (name : String) : List RoutedIngress :=
  (primaries resources).filter fun r =>
    r.pathClaims.any fun claim => isOn (store.built now defaultService resources).backends name (r, claim)

theorem findSome?_claimants {β : Type} (f : RoutedIngress → Option β) :
    ((allClaims resources).filter (isOn (store.built now defaultService resources).backends name)).findSome?
        (fun claimed => f claimed.1) =
      (store.claimants now defaultService resources name).findSome? f :=
  findSome?_parts RoutedIngress.pathClaims
    (fun r claim => isOn (store.built now defaultService resources).backends name (r, claim)) f (primaries resources)

theorem firstSet_claimants (f : RoutedIngress → String) :
    firstSet "" ("" :: ((allClaims resources).filter
        (isOn (store.built now defaultService resources).backends name)).map fun claimed => f claimed.1) =
      firstSet "" ((store.claimants now defaultService resources name).map f) := by
  rw [firstSet_cons, if_pos rfl, firstSet_map, firstSet_map]
  exact congrArg (·.getD "") (findSome?_claimants fun r => if f r = "" then none else some (f r))

/-- The kind, the mode and the cookie of a backend are each the first that its claimants set. So the kind and the
cookie come from the first claimant with an affinity, but the mode only if the claimants before that one set none,
or the same one. -/
theorem wired_affinity (h : (store.wired now defaultService resources).backends.get? name = some b) :
    let claimants := store.claimants now defaultService resources name
    b.affinity.kind = firstSet "" (claimants.map (·.policy.affinity.kind)) ∧
    b.affinity.mode = firstSet "" (claimants.map (·.policy.affinity.mode)) ∧
    (∀ cookie, claimants.findSome? (·.policy.affinity.namedCookie?) = some cookie →
      b.affinity.cookie.policy = cookie) ∧
    ∀ before r after, claimants = before ++ r :: after →
      (∀ q ∈ before, q.policy.affinity.kind = "") → r.policy.affinity.kind ≠ "" →
        b.affinity.kind = r.policy.affinity.kind ∧
        (∀ cookie, r.policy.affinity.namedCookie? = some cookie → b.affinity.cookie.policy = cookie) ∧
        (r.policy.affinity.mode ≠ "" → (b.affinity.mode = r.policy.affinity.mode ↔
          firstSet "" (before.map (·.policy.affinity.mode)) ∈ ["", r.policy.affinity.mode])) := by
  intro claimants
  have hkind : b.affinity.kind = firstSet "" (claimants.map (·.policy.affinity.kind)) := by
    rw [affinity_wired h, foldl_adoptClaim_kind]
    exact firstSet_claimants (·.policy.affinity.kind)
  have hmode : b.affinity.mode = firstSet "" (claimants.map (·.policy.affinity.mode)) := by
    rw [affinity_wired h, foldl_adoptClaim_mode]
    exact firstSet_claimants (·.policy.affinity.mode)
  have hcookie : ∀ cookie, claimants.findSome? (·.policy.affinity.namedCookie?) = some cookie →
      b.affinity.cookie.policy = cookie := fun cookie hfirst => by
    rw [affinity_wired h]
    exact foldl_adoptClaim_policy ((findSome?_claimants (·.policy.affinity.namedCookie?)).trans hfirst) rfl
  refine ⟨hkind, hmode, hcookie, fun before r after hsplit hbefore hr => ⟨?_, fun cookie hown => hcookie cookie ?_,
    fun hset => ?_⟩⟩
  · have hnone : firstSet "" (before.map (·.policy.affinity.kind)) = "" :=
      firstSet_of_unset fun kind hmem => by
        obtain ⟨q, hq, rfl⟩ := List.mem_map.1 hmem
        exact hbefore q hq
    rw [hkind, hsplit, List.map_append, firstSet_append, if_pos hnone, List.map_cons, firstSet_cons, if_neg hr]
  · have hnone : before.findSome? (·.policy.affinity.namedCookie?) = none :=
      List.findSome?_eq_none_iff.2 fun q hq => by simp [AffinityPolicy.namedCookie?, hbefore q hq]
    rw [hsplit, List.findSome?_append, hnone, Option.none_or, List.findSome?_cons, hown]
  · rw [hmode, hsplit, List.map_append, firstSet_append, List.map_cons, firstSet_cons, if_neg hset]
    by_cases hfirst : firstSet "" (before.map (·.policy.affinity.mode)) = "" <;> simp [hfirst]

/-- An ingress without an affinity settles the mode of the one behind it, which asks for another. -/
theorem wired_affinity_of_two :
    let store := Store.withOptions {}
    let plain := store.routed (rootIngress "ns" "plain" "a.com" "web")
    let sticky : RoutedIngress := ⟨rootIngress "ns" "sticky" "b.com" "web",
      { affinity := { kind := "cookie", mode := "persistent", cookie := { name := "route" } } }⟩
    ∃ b, (store.wired ⟨0, 0⟩ none [plain, sticky]).backends.get? "ns-web-80" = some b ∧
      b.affinity.kind = "cookie" ∧ b.affinity.cookie.policy = { name := "route" } ∧
      b.affinity.mode = "balanced" ∧ b.affinity.mode ≠ "persistent" := by
  intro store plain sticky
  have hthere : (store.wired ⟨0, 0⟩ none [plain, sticky]).backends.contains "ns-web-80" := by decide +kernel
  have hclaimants : store.claimants ⟨0, 0⟩ none [plain, sticky] "ns-web-80" = [plain] ++ sticky :: [] := by
    decide +kernel
  obtain ⟨b, hb⟩ := Table.contains_iff.1 hthere
  obtain ⟨_, hmode, _, hfirst⟩ := wired_affinity hb
  obtain ⟨hkind, hcookie, _⟩ := hfirst _ _ _ hclaimants (by decide +kernel) (by decide)
  have hbalanced : b.affinity.mode = "balanced" := by
    rw [hmode, hclaimants]
    decide +kernel
  exact ⟨b, hb, hkind, hcookie _ rfl, hbalanced, by rw [hbalanced]; decide⟩

end Store
end IngressPlane
