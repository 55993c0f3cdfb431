import IngressPlane.Proofs.Synthesis.Hosts
import IngressPlane.Synthesis.Locations

/-! Wiring, host by host. What becomes of the locations of one host depends only on the claims on that
host, taken in order, and on nothing in the backends but their names, services and whether they are
canaries (`locationsAt?_foldl_wire`). A location that a claim has taken stays for good. -/
namespace IngressPlane

section ReplaceFirst
variable {α β : Type} {p : α → Bool} {f : α → α} {xs : List α} {x y : α}

theorem mem_replaceFirst (h : y ∈ replaceFirst p f xs) : y ∈ xs ∨ ∃ x, xs.find? p = some x ∧ y = f x := by
  induction xs with
  | nil => simp [replaceFirst] at h
  | cons head rest ih =>
    simp only [replaceFirst] at h
    by_cases hp : p head
    · simp only [hp, if_true, List.mem_cons] at h
      rcases h with rfl | h
      · exact .inr ⟨head, by simp [hp], rfl⟩
      · exact .inl (List.mem_cons_of_mem head h)
    · simp only [hp, Bool.false_eq_true, if_false, List.mem_cons] at h
      rcases h with rfl | h
      · exact .inl List.mem_cons_self
      · rcases ih h with h | ⟨x, hx, hy⟩
        · exact .inl (List.mem_cons_of_mem head h)
        · exact .inr ⟨x, by simpa [List.find?_cons, hp] using hx, hy⟩

theorem mem_replaceFirst_of_mem (h : x ∈ xs) (hfind : xs.find? p ≠ some x) :
    x ∈ replaceFirst p f xs := by
  induction xs with
  | nil => simp at h
  | cons head rest ih =>
    simp only [replaceFirst]
    by_cases hp : p head
    · simp only [hp, if_true, List.mem_cons]
      rcases List.mem_cons.1 h with rfl | h
      · simp [hp] at hfind
      · exact .inr h
    · simp only [hp, List.mem_cons, Bool.false_eq_true, if_false]
      rcases List.mem_cons.1 h with rfl | h
      · exact .inl rfl
      · exact .inr (ih h (by simpa [List.find?_cons, hp] using hfind))

theorem map_replaceFirst {g : α → β} (hg : ∀ x, p x → g (f x) = g x) :
    (replaceFirst p f xs).map g = xs.map g := by
  induction xs with
  | nil => rfl
  | cons head rest ih =>
    by_cases hp : p head
    · simp [replaceFirst, hp, hg head hp]
    · simp [replaceFirst, hp, ih]

theorem find?_replaceFirst_self (hf : ∀ x, p x → p (f x)) (xs : List α) :
    (replaceFirst p f xs).find? p = (xs.find? p).map f := by
  induction xs with
  | nil => rfl
  | cons x xs ih =>
    by_cases hx : p x
    · simp [replaceFirst, hx, hf x hx]
    · simp [replaceFirst, hx, ih]

theorem find?_replaceFirst_other {q : α → Bool} (hf : ∀ x, p x → q x = false ∧ q (f x) = false)
    (xs : List α) : (replaceFirst p f xs).find? q = xs.find? q := by
  induction xs with
  | nil => rfl
  | cons x xs ih =>
    by_cases hx : p x
    · simp [replaceFirst, hx, hf x hx]
    · simp [replaceFirst, hx, List.find?_cons, ih]

end ReplaceFirst

namespace Backend

def bare (b : Backend) : Backend := { b with affinity := {} }

@[simp] theorem bare_name (b : Backend) : b.bare.name = b.name := rfl
@[simp] theorem bare_noServer (b : Backend) : b.bare.noServer = b.noServer := rfl
@[simp] theorem bare_alternatives (b : Backend) : b.bare.alternatives = b.alternatives := rfl

end Backend

variable {backends : Table Backend} {claimed : RoutedIngress × PathClaim} {ls : List Location}
  {l : Location} {d : Draft}

def claimedName (claimed : RoutedIngress × PathClaim) : String :=
  claimed.1.backendName claimed.2.service

def PathClaim.key (claim : PathClaim) : String × PathType := (claim.path, claim.pathType)

theorem PathClaim.isFor_iff {claim : PathClaim} {l : Location} : claim.isFor l ↔ l.key = claim.key := by
  simp [PathClaim.isFor, Location.key, PathClaim.key]

def placeClaim (backends : Table Backend) (ls : List Location) (claimed : RoutedIngress × PathClaim) :
    List Location :=
  match backends.get? (claimedName claimed) with
  | none => ls
  | some backend =>
    if backend.noServer then ls
    else
      match ls.find? claimed.2.isFor with
      | none => ls ++ [.ofClaim claimed.1 claimed.2 backend]
      | some l =>
        if l.isFallback then replaceFirst claimed.2.isFor (·.claimed claimed.1 claimed.2 backend) ls
        else ls

theorem placeClaim_bare (backends : Table Backend) (ls : List Location)
    (claimed : RoutedIngress × PathClaim) :
    placeClaim (backends.map Backend.bare) ls claimed = placeClaim backends ls claimed := by
  unfold placeClaim
  rw [Table.get?_map]
  cases backends.get? (claimedName claimed) <;> rfl

theorem placeClaim_congr {others : Table Backend}
    (h : others.get? (claimedName claimed) = backends.get? (claimedName claimed)) (ls : List Location) :
    placeClaim others ls claimed = placeClaim backends ls claimed := by
  unfold placeClaim
  rw [h]

theorem placeClaim_unserved (h : (backends.get? (claimedName claimed)).all (·.noServer))
    (ls : List Location) : placeClaim backends ls claimed = ls := by
  unfold placeClaim
  split
  · rfl
  next backend hbackend =>
    rw [hbackend, Option.all_some] at h
    rw [if_pos h]

theorem VirtualHost.claim_locations (v : VirtualHost) (r : RoutedIngress) (claim : PathClaim)
    (backend : Backend) :
    (v.claim r claim backend).1.locations =
      match v.locations.find? claim.isFor with
      | none => v.locations ++ [.ofClaim r claim backend]
      | some l =>
        if l.isFallback then replaceFirst claim.isFor (·.claimed r claim backend) v.locations
        else v.locations := by
  unfold VirtualHost.claim
  cases v.locations.find? claim.isFor with
  | none => rfl
  | some l => by_cases h : l.isFallback <;> simp [h]

theorem VirtualHost.claim_shell (v : VirtualHost) (r : RoutedIngress) (claim : PathClaim) (backend : Backend) :
    (v.claim r claim backend).1.shell = v.shell := by
  unfold VirtualHost.claim
  dsimp only
  split
  · rfl
  · split <;> rfl

namespace Draft

def targetHost (d : Draft) (claim : PathClaim) : String :=
  if d.hosts.contains claim.host then claim.host else catchAllHost

/-- Wiring a claim does nothing, for lack of a host or of a server, or it changes its backend and its
host. -/
theorem wire_cases (d : Draft) (claimed : RoutedIngress × PathClaim) :
    (d.wire claimed = d ∧ ((d.hosts.get? (d.targetHost claimed.2)).isSome →
        (d.backends.get? (claimedName claimed)).all (·.noServer))) ∨
      ∃ v backend, d.hosts.get? (d.targetHost claimed.2) = some v ∧
        d.backends.get? (claimedName claimed) = some backend ∧ backend.noServer = false ∧
        d.wire claimed =
          { backends := d.backends.insert (claimedName claimed) { backend with
              affinity := backend.affinity.adopt claimed.1.policy.affinity
                (claimed.2.host :: (v.claim claimed.1 claimed.2 backend).1.aliases) claimed.2.path }
            hosts := d.hosts.insert (d.targetHost claimed.2) (v.claim claimed.1 claimed.2 backend).1
            notes := d.notes ++ (v.claim claimed.1 claimed.2 backend).2 } := by
  unfold wire
  dsimp only
  split
  next v backend hv hbackend =>
    by_cases hcanary : backend.noServer
    · refine .inl ⟨by rw [if_pos hcanary], fun _ => ?_⟩
      simp only [claimedName, hbackend, Option.all_some, hcanary]
    · exact .inr ⟨v, backend, hv, hbackend, by simpa using hcanary, by rw [if_neg hcanary]; rfl⟩
  next hnone =>
    refine .inl ⟨rfl, fun hthere => ?_⟩
    obtain ⟨v, hv⟩ := Option.isSome_iff_exists.1 hthere
    cases hbackend : d.backends.get? (claimedName claimed) with
    | none => rfl
    | some backend => exact (hnone v backend hv hbackend).elim

theorem wire_bare (d : Draft) (claimed : RoutedIngress × PathClaim) :
    (d.wire claimed).backends.map Backend.bare = d.backends.map Backend.bare := by
  rcases d.wire_cases claimed with ⟨hself, _⟩ | ⟨v, backend, _, hbackend, _, hwire⟩
  · rw [hself]
  · rw [hwire]
    refine Table.ext_get? fun k => ?_
    simp only [Table.get?_map, Table.get?_insert]
    split
    next hk => rw [← hk, hbackend]; rfl
    next => rfl

theorem wire_shell (d : Draft) (claimed : RoutedIngress × PathClaim) :
    (d.wire claimed).hosts.map VirtualHost.shell = d.hosts.map VirtualHost.shell := by
  rcases d.wire_cases claimed with ⟨hself, _⟩ | ⟨v, backend, hv, _, _, hwire⟩
  · rw [hself]
  · rw [hwire]
    refine Table.ext_get? fun k => ?_
    simp only [Table.get?_map, Table.get?_insert]
    split
    next hk => rw [← hk, hv, Option.map_some, Option.map_some, VirtualHost.claim_shell]
    next => rfl

theorem foldl_wire_shell (claims : List (RoutedIngress × PathClaim)) (d : Draft) :
    (claims.foldl wire d).hosts.map VirtualHost.shell = d.hosts.map VirtualHost.shell :=
  List.foldlRecOn (motive := fun d' : Draft => d'.hosts.map VirtualHost.shell = d.hosts.map VirtualHost.shell)
    claims wire rfl fun d' h claimed _ => (d'.wire_shell claimed).trans h

theorem notes_prefix_foldl_wire (claims : List (RoutedIngress × PathClaim)) (d : Draft) :
    d.notes <+: (claims.foldl wire d).notes :=
  List.foldlRecOn (motive := fun d' : Draft => d.notes <+: d'.notes) claims wire (List.prefix_refl _)
    fun d' h claimed _ => by
      rcases d'.wire_cases claimed with ⟨hself, _⟩ | ⟨v, backend, _, _, _, hwire⟩
      · rwa [hself]
      · rw [hwire]
        exact h.trans (List.prefix_append _ _)

theorem locationsAt?_wire (d : Draft) (claimed : RoutedIngress × PathClaim) (host : String) :
    locationsAt? (d.wire claimed).hosts host =
      if d.targetHost claimed.2 = host then
        (locationsAt? d.hosts host).map (placeClaim d.backends · claimed)
      else locationsAt? d.hosts host := by
  rcases d.wire_cases claimed with ⟨hself, hunserved⟩ | ⟨v, backend, hv, hbackend, hserver, hwire⟩
  · rw [hself]
    split
    next heq =>
      unfold locationsAt?
      cases hv : d.hosts.get? host with
      | none => rfl
      | some v =>
        have hthere : (d.hosts.get? (d.targetHost claimed.2)).isSome := by rw [heq, hv]; rfl
        simp [placeClaim_unserved (hunserved hthere)]
    next => rfl
  · rw [hwire, locationsAt?_insert]
    split
    next heq =>
      simp only [locationsAt?, ← heq, hv, Option.map_some, VirtualHost.claim_locations, placeClaim,
        hbackend, hserver, Bool.false_eq_true, if_false]
    next => rfl

theorem contains_wire (d : Draft) (claimed : RoutedIngress × PathClaim) (host : String) :
    (d.wire claimed).hosts.contains host = d.hosts.contains host := by
  rw [← isSome_locationsAt?, ← isSome_locationsAt?, locationsAt?_wire]
  split <;> simp

theorem targetHost_wire (d : Draft) (claimed : RoutedIngress × PathClaim) :
    (d.wire claimed).targetHost = d.targetHost := by
  funext claim
  simp only [targetHost, contains_wire]

theorem foldl_wire_bare (claims : List (RoutedIngress × PathClaim)) (d : Draft) :
    (claims.foldl wire d).backends.map Backend.bare = d.backends.map Backend.bare := by
  induction claims generalizing d with
  | nil => rfl
  | cons claimed claims ih => rw [List.foldl_cons, ih, wire_bare]

theorem locationsAt?_foldl_wire (claims : List (RoutedIngress × PathClaim)) (d : Draft)
    (host : String) :
    locationsAt? (claims.foldl wire d).hosts host =
      (locationsAt? d.hosts host).map fun ls =>
        (claims.filter (d.targetHost ·.2 = host)).foldl (placeClaim d.backends) ls := by
  induction claims generalizing d with
  | nil => simp
  | cons claimed claims ih =>
    have hplace : placeClaim (d.wire claimed).backends = placeClaim d.backends := by
      funext ls c
      rw [← placeClaim_bare, wire_bare, placeClaim_bare]
    rw [List.foldl_cons, ih, hplace, targetHost_wire, locationsAt?_wire, List.filter_cons]
    split
    next heq => simp [heq, Function.comp_def]
    next hne => simp [hne]

end Draft

theorem mem_placeClaim (h : l ∈ placeClaim backends ls claimed) :
    l ∈ ls ∨ ∃ backend, backends.get? (claimedName claimed) = some backend ∧
      backend.noServer = false ∧ (l = .ofClaim claimed.1 claimed.2 backend ∨
        ∃ root ∈ ls, root.isFallback ∧ root.key = claimed.2.key ∧
          l = root.claimed claimed.1 claimed.2 backend) := by
  unfold placeClaim at h
  split at h
  · exact .inl h
  next backend hbackend =>
    split at h
    · exact .inl h
    next hserver =>
      have hserver : backend.noServer = false := by simpa using hserver
      split at h
      next =>
        rcases List.mem_append.1 h with h | h
        · exact .inl h
        · exact .inr ⟨backend, hbackend, hserver, .inl (by simpa using h)⟩
      next root hroot =>
        split at h
        next hfallback =>
          rcases mem_replaceFirst h with h | ⟨x, hx, rfl⟩
          · exact .inl h
          · obtain rfl : root = x := by simpa [hroot] using hx
            exact .inr ⟨backend, hbackend, hserver, .inr ⟨root, List.mem_of_find?_eq_some hroot,
              hfallback, PathClaim.isFor_iff.1 (List.find?_some hroot), rfl⟩⟩
        next => exact .inl h

theorem mem_placeClaim_of_taken (h : l ∈ ls) (htaken : l.isFallback = false) :
    l ∈ placeClaim backends ls claimed := by
  unfold placeClaim
  split
  · exact h
  · split
    · exact h
    · split
      · exact List.mem_append_left _ h
      next root hroot =>
        split
        next hfallback =>
          refine mem_replaceFirst_of_mem h fun heq => ?_
          rw [hroot, Option.some.injEq] at heq
          simp [heq, htaken] at hfallback
        next => exact h

theorem keys_placeClaim (backends : Table Backend) (ls : List Location)
    (claimed : RoutedIngress × PathClaim) :
    (placeClaim backends ls claimed).map Location.key = ls.map Location.key ∨
      claimed.2.key ∉ ls.map Location.key ∧
        (placeClaim backends ls claimed).map Location.key = ls.map Location.key ++ [claimed.2.key] := by
  unfold placeClaim
  split
  · exact .inl rfl
  · split
    · exact .inl rfl
    next backend _ _ =>
      split
      next hfind =>
        have hnew : claimed.2.key ∉ ls.map Location.key := by
          simpa [PathClaim.isFor_iff, List.find?_eq_none] using hfind
        exact .inr ⟨hnew, List.map_append⟩
      next =>
        split
        · exact .inl (map_replaceFirst fun _ _ => rfl)
        · exact .inl rfl

theorem keys_prefix_placeClaim (backends : Table Backend) (ls : List Location)
    (claimed : RoutedIngress × PathClaim) :
    ls.map Location.key <+: (placeClaim backends ls claimed).map Location.key := by
  rcases keys_placeClaim backends ls claimed with hsame | ⟨_, hadded⟩
  · exact ⟨[], by rw [List.append_nil, hsame]⟩
  · exact ⟨[claimed.2.key], hadded.symm⟩

theorem nodup_keys_placeClaim (h : (ls.map Location.key).Nodup) :
    ((placeClaim backends ls claimed).map Location.key).Nodup := by
  rcases keys_placeClaim backends ls claimed with hsame | ⟨hnew, hadded⟩
  · rwa [hsame]
  · rw [hadded, List.nodup_append]
    refine ⟨h, by simp, fun key hkey key' hkey' heq => hnew ?_⟩
    rwa [heq, List.mem_singleton.1 hkey'] at hkey

namespace Draft

/-- What holds of all locations, of those of claims, and of roots that claims take, holds after wiring. -/
theorem allLocations_foldl_wire {P : Location → Prop} {claims : List (RoutedIngress × PathClaim)}
    (h : AllLocations P d.hosts)
    (hclaim : ∀ claimed ∈ claims, ∀ backend, d.backends.get? (claimedName claimed) = some backend →
      backend.noServer = false → P (.ofClaim claimed.1 claimed.2 backend) ∧
        ∀ root, root.isFallback → root.key = claimed.2.key → P root →
          P (root.claimed claimed.1 claimed.2 backend)) :
    AllLocations P (claims.foldl wire d).hosts := by
  intro host ls hls
  rw [locationsAt?_foldl_wire] at hls
  obtain ⟨old, hold, rfl⟩ := Option.map_eq_some_iff.1 hls
  refine List.foldlRecOn (motive := fun ls => ∀ l ∈ ls, P l) _ _ (h host old hold) ?_
  intro ls hls claimed hclaimed l hl
  rcases mem_placeClaim hl with hl | ⟨backend, hbackend, hserver, hl⟩
  · exact hls l hl
  · obtain ⟨hof, hroot⟩ := hclaim claimed (List.mem_filter.1 hclaimed).1 backend hbackend hserver
    rcases hl with rfl | ⟨root, hmem, hfallback, hkey, rfl⟩
    · exact hof
    · exact hroot root hfallback hkey (hls root hmem)

theorem wire_hosts_named (h : d.hosts.Named VirtualHost.hostname)
    (claimed : RoutedIngress × PathClaim) : (d.wire claimed).hosts.Named VirtualHost.hostname := by
  rcases d.wire_cases claimed with ⟨hself, _⟩ | ⟨v, backend, hv, _, _, hwire⟩
  · rwa [hself]
  · have hname : (v.claim claimed.1 claimed.2 backend).1.hostname = v.hostname := by
      simpa using congrArg VirtualHost.hostname (v.claim_shell claimed.1 claimed.2 backend)
    rw [hwire]
    exact h.insert (hname.trans (h _ v hv))

end Draft
end IngressPlane
