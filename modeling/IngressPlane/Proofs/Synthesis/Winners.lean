import IngressPlane.Proofs.Synthesis.Wired

/-! Which claim wins a path. Claims are placed in order and none gives way, so the location at a path is
that of the first claim which can win it, or else the one that the host is opened with
(`locationAt?_wired`). -/
namespace IngressPlane

variable {backends : Table Backend} {claimed : RoutedIngress × PathClaim}
  {claims : List (RoutedIngress × PathClaim)} {ls : List Location} {l : Location} {found : Option Location}
  {key : String × PathType} {host : String} {store : Store} {now : Instant} {defaultService : Option String}
  {resources : List RoutedIngress}

def locationAt? (hosts : Table VirtualHost) (host : String) (key : String × PathType) : Option Location :=
  (locationsAt? hosts host).bind (·.find? (·.key = key))

/-- Whether a claim can win a path: its backend is there and has a server. -/
def canWin (backends : Table Backend) (claimed : RoutedIngress × PathClaim) : Bool :=
  (backends.get? (claimedName claimed)).any (!·.noServer)

theorem canWin_bare (backends : Table Backend) (claimed : RoutedIngress × PathClaim) :
    canWin (backends.map Backend.bare) claimed = canWin backends claimed := by
  unfold canWin
  rw [Table.get?_map]
  cases backends.get? (claimedName claimed) <;> rfl

theorem not_canWin_of_unserved (h : (backends.get? (claimedName claimed)).all (·.noServer)) :
    canWin backends claimed = false := by
  unfold canWin
  cases hbackend : backends.get? (claimedName claimed) with
  | none => rfl
  | some backend => simpa [hbackend] using h

def occupy (backends : Table Backend) (found : Option Location) (claimed : RoutedIngress × PathClaim) :
    Option Location :=
  match backends.get? (claimedName claimed) with
  | none => found
  | some backend =>
    if backend.noServer then found
    else
      match found with
      | none => some (.ofClaim claimed.1 claimed.2 backend)
      | some l => if l.isFallback then some (l.claimed claimed.1 claimed.2 backend) else some l

theorem occupy_of_not_canWin (h : canWin backends claimed = false) :
    occupy backends found claimed = found := by
  unfold occupy
  unfold canWin at h
  split
  · rfl
  next backend hbackend =>
    rw [hbackend, Option.any_some, Bool.not_eq_false'] at h
    rw [if_pos h]

theorem occupy_of_canWin (h : canWin backends claimed = true) (hfree : found.all (·.isFallback)) :
    ∃ backend l, backends.get? (claimedName claimed) = some backend ∧
      occupy backends found claimed = some l ∧ l.isFallback = false ∧ l.owner = some claimed.1.owner ∧
      l.backend = backend.name := by
  obtain ⟨backend, hbackend, hserver⟩ := (Option.any_eq_true _ _).1 h
  have hserver : backend.noServer = false := by simpa using hserver
  unfold occupy
  simp only [hbackend, hserver, Bool.false_eq_true, if_false]
  cases found with
  | none => exact ⟨backend, _, rfl, rfl, rfl, rfl, rfl⟩
  | some l => exact ⟨backend, _, rfl, if_pos hfree, rfl, rfl, rfl⟩

theorem occupy_taken (h : l.isFallback = false) : occupy backends (some l) claimed = some l := by
  unfold occupy
  split
  · rfl
  · split
    · rfl
    · simp [h]

theorem PathClaim.isFor_eq (claim : PathClaim) : claim.isFor = fun l => decide (l.key = claim.key) := by
  funext l
  rw [Bool.eq_iff_iff, PathClaim.isFor_iff, decide_eq_true_iff]

theorem find?_placeClaim_self (backends : Table Backend) (ls : List Location)
    (claimed : RoutedIngress × PathClaim) :
    (placeClaim backends ls claimed).find? (·.key = claimed.2.key) =
      occupy backends (ls.find? (·.key = claimed.2.key)) claimed := by
  unfold placeClaim occupy
  rw [PathClaim.isFor_eq]
  cases backends.get? (claimedName claimed) with
  | none => rfl
  | some backend =>
    dsimp only
    split
    · rfl
    · cases hfind : ls.find? (·.key = claimed.2.key) with
      | none =>
        have hkey : (Location.ofClaim claimed.1 claimed.2 backend).key = claimed.2.key := rfl
        rw [List.find?_append, hfind, Option.none_or, List.find?_singleton, if_pos (decide_eq_true hkey)]
      | some l =>
        dsimp only
        split
        · have hkeep (x : Location) (hx : decide (x.key = claimed.2.key)) :
              decide ((x.claimed claimed.1 claimed.2 backend).key = claimed.2.key) := hx
          rw [find?_replaceFirst_self hkeep, hfind, Option.map_some]
        · exact hfind

theorem find?_placeClaim_other (backends : Table Backend) (ls : List Location) (h : claimed.2.key ≠ key) :
    (placeClaim backends ls claimed).find? (·.key = key) = ls.find? (·.key = key) := by
  unfold placeClaim
  rw [PathClaim.isFor_eq]
  split
  · rfl
  next backend _ =>
    split
    · rfl
    · split
      · have hkey : (Location.ofClaim claimed.1 claimed.2 backend).key ≠ key := h
        rw [List.find?_append, List.find?_singleton, if_neg (by simpa using hkey), Option.or_none]
      · split
        · refine find?_replaceFirst_other (fun x hx => ?_) ls
          have hxkey : x.key = claimed.2.key := of_decide_eq_true hx
          have hckey : (x.claimed claimed.1 claimed.2 backend).key = claimed.2.key := hxkey
          rw [hxkey, hckey]
          exact ⟨decide_eq_false h, decide_eq_false h⟩
        · rfl

theorem find?_foldl_placeClaim (claims : List (RoutedIngress × PathClaim)) (ls : List Location) :
    (claims.foldl (placeClaim backends) ls).find? (·.key = key) =
      (claims.filter (·.2.key = key)).foldl (occupy backends) (ls.find? (·.key = key)) := by
  induction claims generalizing ls with
  | nil => rfl
  | cons claimed claims ih =>
    rw [List.foldl_cons, ih, List.filter_cons]
    split
    next h =>
      obtain rfl : claimed.2.key = key := of_decide_eq_true h
      rw [find?_placeClaim_self, List.foldl_cons]
    next h => rw [find?_placeClaim_other backends ls (by simpa using h)]

theorem foldl_occupy_taken (h : l.isFallback = false) (claims : List (RoutedIngress × PathClaim)) :
    claims.foldl (occupy backends) (some l) = some l := by
  induction claims with
  | nil => rfl
  | cons claimed claims ih => rw [List.foldl_cons, occupy_taken h, ih]

theorem foldl_occupy_free (hfree : found.all (·.isFallback)) (claims : List (RoutedIngress × PathClaim)) :
    claims.foldl (occupy backends) found =
      ((claims.find? (canWin backends)).map (occupy backends found)).getD found := by
  induction claims with
  | nil => rfl
  | cons claimed claims ih =>
    rw [List.foldl_cons, List.find?_cons]
    cases hwin : canWin backends claimed with
    | false =>
      rw [occupy_of_not_canWin hwin]
      exact ih
    | true =>
      obtain ⟨_, l, _, hl, htaken, _⟩ := occupy_of_canWin hwin hfree
      rw [hl, foldl_occupy_taken htaken]
      simp [hl]

namespace Draft

variable {d : Draft}

/-- Whether rules can still claim a path of a host: no ingress without rules has it. -/
def isFree (d : Draft) (host : String) (key : String × PathType) : Bool :=
  d.hosts.contains host && (locationAt? d.hosts host key).all (·.isFallback)

def winner? (d : Draft) (claims : List (RoutedIngress × PathClaim)) (host : String)
    (key : String × PathType) : Option (RoutedIngress × PathClaim) :=
  if d.isFree host key then
    claims.find? fun claimed => claimed.2.host = host && (claimed.2.key = key && canWin d.backends claimed)
  else none

theorem winner?_spec (h : d.winner? claims host key = some claimed) : claimed ∈ claims ∧
    claimed.2.host = host ∧ claimed.2.key = key ∧ canWin d.backends claimed ∧ d.isFree host key := by
  unfold winner? at h
  split at h
  next hfree =>
    have hmatch := List.find?_some h
    simp only [Bool.and_eq_true, decide_eq_true_iff] at hmatch
    exact ⟨List.mem_of_find?_eq_some h, hmatch.1, hmatch.2.1, hmatch.2.2, hfree⟩
  next => cases h

/-- After wiring, a path of a host is as its winner leaves it, or as it was. -/
theorem locationAt?_foldl_wire (htarget : ∀ claimed ∈ claims, d.targetHost claimed.2 = claimed.2.host)
    (host : String) (key : String × PathType) :
    locationAt? (claims.foldl wire d).hosts host key =
      ((d.winner? claims host key).map (occupy d.backends (locationAt? d.hosts host key))).getD
        (locationAt? d.hosts host key) := by
  have hfilter : claims.filter (d.targetHost ·.2 = host) = claims.filter (·.2.host = host) :=
    List.filter_congr fun claimed hclaimed => by rw [htarget claimed hclaimed]
  have hthere : d.hosts.contains host = (locationsAt? d.hosts host).isSome := isSome_locationsAt?.symm
  unfold winner? isFree locationAt?
  rw [locationsAt?_foldl_wire, hfilter, hthere]
  cases locationsAt? d.hosts host with
  | none => rfl
  | some ls =>
    rw [Option.map_some, Option.bind_some, Option.bind_some, find?_foldl_placeClaim]
    simp only [Option.isSome_some, Bool.true_and]
    split
    next hfree =>
      -- the claims were selected by host and by key, which the winner's predicate does at once
      rw [foldl_occupy_free hfree, List.find?_filter, List.find?_filter]
      simp only [Bool.decide_and, Bool.decide_eq_true]
    next htaken =>
      cases hfind : ls.find? (·.key = key) with
      | none => simp [hfind] at htaken
      | some l =>
        have hflag : l.isFallback = false := by simpa [hfind] using htaken
        exact foldl_occupy_taken hflag _

end Draft

namespace Store

theorem locationAt?_wired (host : String) (key : String × PathType) :
    let d := store.built now defaultService resources
    locationAt? (store.wired now defaultService resources).hosts host key =
      ((d.winner? (allClaims resources) host key).map
        (occupy d.backends (locationAt? d.hosts host key))).getD (locationAt? d.hosts host key) :=
  Draft.locationAt?_foldl_wire (fun _ hclaimed => targetHost_built store now defaultService hclaimed) host key

theorem locationAt?_of_winner
    (h : (store.built now defaultService resources).winner? (allClaims resources) host key = some claimed) :
    ∃ l, locationAt? (store.wired now defaultService resources).hosts host key = some l ∧
      l.isFallback = false ∧ l.owner = some claimed.1.owner ∧ l.backend = claimedName claimed := by
  obtain ⟨_, _, _, hwin, hfree⟩ := Draft.winner?_spec h
  obtain ⟨backend, l, hbackend, hl, htaken, howner, hlead⟩ :=
    occupy_of_canWin hwin (Bool.and_eq_true_iff.1 hfree).2
  refine ⟨l, ?_, htaken, howner, ?_⟩
  · rw [locationAt?_wired, h]
    exact hl
  · rw [hlead]
    exact buildBackends_named store resources _ _ backend hbackend

end Store

end IngressPlane
