import IngressPlane.Proofs.Synthesis.Winners

/-! Two runs side by side. Hosts that differ only in the services that their backends are resolved to stay so
when they are opened for the same ingresses, and where fewer claims can win, the others win what they won
before (`LeadAlike.winner?`). -/
namespace IngressPlane

variable {backends others : Table Backend} {claimed : RoutedIngress × PathClaim}
  {claims : List (RoutedIngress × PathClaim)} {ls ls' : List Location} {l l' : Location}
  {found found' : Option Location} {hosts hosts' : Table VirtualHost} {fallback : Backend}
  {r : RoutedIngress} {key : String × PathType} {host : String} {store : Store}
  {resources : List RoutedIngress} {d d' : Draft}

theorem cases_of_map_eq_map {α β : Type} {f : α → β} {a b : Option α} (h : a.map f = b.map f) :
    a = none ∧ b = none ∨ ∃ x y, a = some x ∧ b = some y ∧ f x = f y := by
  cases a with
  | none => exact .inl ⟨rfl, by simpa using h.symm⟩
  | some x =>
    rw [Option.map_some, eq_comm, Option.map_eq_some_iff] at h
    obtain ⟨y, hy, heq⟩ := h
    exact .inr ⟨x, y, rfl, hy, heq.symm⟩

def Location.unresolved (l : Location) : Location := { l with service := none }

@[simp] theorem Location.unresolved_key (l : Location) : l.unresolved.key = l.key := rfl
@[simp] theorem Location.unresolved_isFallback (l : Location) : l.unresolved.isFallback = l.isFallback := rfl
@[simp] theorem Location.unresolved_backend (l : Location) : l.unresolved.backend = l.backend := rfl

theorem Location.unresolved_takeOver_congr (h : l.unresolved = l'.unresolved) {b b' : Backend}
    (hname : b.name = b'.name) : (l.takeOver r b).unresolved = (l'.takeOver r b').unresolved := by
  have hown (l : Location) (b : Backend) : (l.takeOver r b).unresolved =
      { l.unresolved with
        backend := b.name
        owner := some r.owner
        isFallback := false
        policy := { r.policy.forLocation with
          redirect := l.unresolved.policy.redirect, mapping := l.unresolved.policy.mapping } } := rfl
  rw [hown, hown, h, hname]

theorem Location.unresolved_claimed_congr (h : l.unresolved = l'.unresolved) {claim : PathClaim}
    {b : Backend} : (l.claimed r claim b).unresolved = (l'.claimed r claim b).unresolved := by
  have hown (l : Location) :
      (l.claimed r claim b).unresolved = (l.unresolved.claimed r claim b).unresolved := rfl
  rw [hown l, hown l', h]

theorem RoutedIngress.claimRoot_congr
    (hown : (r.ownFallback? backends).map Backend.name = (r.ownFallback? others).map Backend.name)
    (h : ls.map Location.unresolved = ls'.map Location.unresolved) :
    (r.claimRoot backends ls).map Location.unresolved = (r.claimRoot others ls').map Location.unresolved := by
  unfold claimRoot
  obtain ⟨hb, hb'⟩ | ⟨b, b', hb, hb', hname⟩ := cases_of_map_eq_map hown
  · rw [hb, hb']
    exact h
  · rw [hb, hb']
    dsimp only
    split
    · cases ls with
      | nil =>
        obtain rfl : ls' = [] := by simpa using h.symm
        rfl
      | cons root rest =>
        cases ls' with
        | nil => cases h
        | cons root' rest' =>
          obtain ⟨hroot, hrest⟩ := List.cons.inj h
          have hflag : root.isFallback = root'.isFallback := by simpa using congrArg Location.isFallback hroot
          dsimp only
          rw [hflag]
          split
          · rw [List.map_cons, List.map_cons, Location.unresolved_takeOver_congr hroot hname, hrest]
          · exact h
    · exact h

/-- Hosts with the same locations, up to the services that the backends of those are resolved to. -/
def LeadAlike (hosts hosts' : Table VirtualHost) : Prop :=
  ∀ host, (locationsAt? hosts host).map (·.map Location.unresolved) =
    (locationsAt? hosts' host).map (·.map Location.unresolved)

theorem LeadAlike.openHosts (h : LeadAlike hosts hosts')
    (hown : (r.ownFallback? backends).map Backend.name = (r.ownFallback? others).map Backend.name) :
    LeadAlike (openHosts backends fallback hosts r) (IngressPlane.openHosts others fallback hosts' r) := by
  have htarget : r.fallbackName backends fallback = r.fallbackName others fallback := by
    rw [RoutedIngress.fallbackName, hown, RoutedIngress.fallbackName]
  intro host
  have hhost := h host
  rw [locationsAt?_openHosts, locationsAt?_openHosts, htarget]
  obtain ⟨hls, hls'⟩ | ⟨ls, ls', hls, hls', hsame⟩ := cases_of_map_eq_map hhost
  · rw [hls, hls']
    rfl
  · rw [hls, hls']
    simp only [Option.map_some, Option.some_or, Option.some.injEq]
    split
    · exact RoutedIngress.claimRoot_congr hown hsame
    · exact hsame

theorem leadAlike_openedHosts {resources' : List RoutedIngress}
    (hprimaries : primaries resources' = primaries resources)
    (hown : ∀ r ∈ primaries resources,
      (r.ownFallback? backends).map Backend.name = (r.ownFallback? others).map Backend.name) :
    LeadAlike (openedHosts store resources' backends fallback)
      (openedHosts store resources others fallback) := by
  -- by induction on the ingresses still to come, for any hosts that are alike so far
  have hrun (rs : List RoutedIngress) (hrs : ∀ r ∈ rs, r ∈ primaries resources)
      {hosts hosts' : Table VirtualHost} (h : LeadAlike hosts hosts') :
      LeadAlike (rs.foldl (openHosts backends fallback) hosts)
        (rs.foldl (openHosts others fallback) hosts') := by
    induction rs generalizing hosts hosts' with
    | nil => exact h
    | cons r rs ih =>
      rw [List.foldl_cons, List.foldl_cons]
      exact ih (fun r hr => hrs r (List.mem_cons_of_mem _ hr))
        (h.openHosts (hown r (hrs r List.mem_cons_self)))
  unfold openedHosts
  rw [hprimaries]
  exact hrun _ (fun _ h => h) fun _ => rfl

theorem LeadAlike.locationAt? (h : LeadAlike hosts hosts') :
    (locationAt? hosts host key).map Location.unresolved =
      (IngressPlane.locationAt? hosts' host key).map Location.unresolved := by
  have hfind (ls : List Location) : (ls.find? (·.key = key)).map Location.unresolved =
      (ls.map Location.unresolved).find? (·.key = key) := by
    rw [List.find?_map]
    rfl
  have hbind (hosts : Table VirtualHost) : (IngressPlane.locationAt? hosts host key).map Location.unresolved =
      ((locationsAt? hosts host).map (·.map Location.unresolved)).bind (·.find? (·.key = key)) := by
    unfold IngressPlane.locationAt?
    cases locationsAt? hosts host with
    | none => rfl
    | some ls => exact hfind ls
  rw [hbind, hbind, h host]

theorem occupy_congr (h : found.map Location.unresolved = found'.map Location.unresolved)
    (hbackend : backends.get? (claimedName claimed) = others.get? (claimedName claimed)) :
    (occupy backends found claimed).map Location.unresolved =
      (occupy others found' claimed).map Location.unresolved := by
  unfold occupy
  rw [hbackend]
  split
  · exact h
  next backend _ =>
    split
    · exact h
    · obtain ⟨rfl, rfl⟩ | ⟨l, l', rfl, rfl, hsame⟩ := cases_of_map_eq_map h
      · rfl
      · have hflag : l.isFallback = l'.isFallback := by simpa using congrArg Location.isFallback hsame
        dsimp only
        rw [hflag]
        split
        · exact congrArg some (Location.unresolved_claimed_congr hsame)
        · exact congrArg some hsame

theorem find?_eq_some_of_imp {α : Type} {p q : α → Bool} (himp : ∀ x, q x → p x) {xs : List α} {w : α}
    (h : xs.find? p = some w) (hw : q w) : xs.find? q = some w := by
  obtain ⟨_, front, rest, rfl, hfront⟩ := List.find?_eq_some_iff_append.1 h
  refine List.find?_eq_some_iff_append.2 ⟨hw, front, rest, rfl, fun x hx => ?_⟩
  have hnot := hfront x hx
  rw [Bool.not_eq_true'] at hnot ⊢
  exact Bool.eq_false_iff.2 fun hq => by simp [himp x hq] at hnot

theorem LeadAlike.isFree (h : LeadAlike d.hosts d'.hosts) :
    d.isFree host key = d'.isFree host key := by
  have hthere : d.hosts.contains host = d'.hosts.contains host := by
    simpa [isSome_locationsAt?] using congrArg Option.isSome (h host)
  have hflags (found : Option Location) : found.all (·.isFallback) =
      (found.map Location.unresolved).all (·.isFallback) := by cases found <;> rfl
  rw [Draft.isFree, hthere, hflags, h.locationAt?, ← hflags, Draft.isFree]

/-- Where fewer claims can win, a path is still won by a claim that can. -/
theorem LeadAlike.winner? {lost : String → Prop} [DecidablePred lost]
    (h : LeadAlike d.hosts d'.hosts)
    (hwin : ∀ claimed, canWin d.backends claimed =
      (decide (¬ lost (claimedName claimed)) && canWin d'.backends claimed)) :
    (d'.winner? claims host key = none → d.winner? claims host key = none) ∧
      ∀ claimed, d'.winner? claims host key = some claimed → ¬ lost (claimedName claimed) →
        d.winner? claims host key = some claimed := by
  unfold Draft.winner?
  rw [h.isFree]
  split
  next =>
    have himp (claimed : RoutedIngress × PathClaim)
        (hclaimed : claimed.2.host = host && (claimed.2.key = key && canWin d.backends claimed)) :
        claimed.2.host = host && (claimed.2.key = key && canWin d'.backends claimed) := by
      rw [hwin] at hclaimed
      simp only [Bool.and_eq_true] at hclaimed ⊢
      exact ⟨hclaimed.1, hclaimed.2.1, hclaimed.2.2.2⟩
    refine ⟨fun hnone => ?_, fun claimed hsome hkept => ?_⟩
    · exact List.find?_eq_none.2 fun claimed hclaimed hmatch =>
        List.find?_eq_none.1 hnone claimed hclaimed (himp claimed hmatch)
    · refine find?_eq_some_of_imp himp hsome ?_
      have hmatch := List.find?_some hsome
      rw [hwin, decide_eq_true hkept, Bool.true_and]
      exact hmatch
  next => exact ⟨fun _ => rfl, fun claimed hsome => by cases hsome⟩

end IngressPlane
