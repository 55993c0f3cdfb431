import IngressPlane.Proofs.Synthesis.Arranged
import Mathlib.Data.List.Nodup

/-! Who owns a path of a host when one more ingress comes behind the others. First claims win, so owners
stay, but for the root of the catch-all host: it is given away before any rule is wired, and an ingress
without rules takes it from whatever rule has claimed it so far (`owns_append`). -/
namespace IngressPlane

variable {store : Store} {now : Instant} {defaultService : Option String}
  {resources : List RoutedIngress} {c r : RoutedIngress} {backends : Table Backend} {fallback : Backend}
  {host : String} {ls : List Location}

def rootKey : String × PathType := (rootPath, .under)

theorem find?_key_of_mem {key : String × PathType} {l : Location} (hnodup : (ls.map Location.key).Nodup)
    (hl : l ∈ ls) (hkey : l.key = key) : ls.find? (·.key = key) = some l := by
  cases hfind : ls.find? (·.key = key) with
  | none => exact absurd (decide_eq_true hkey) (List.find?_eq_none.1 hfind l hl)
  | some l' =>
    have hkey' : l'.key = key := by simpa using List.find?_some hfind
    exact congrArg some (List.inj_on_of_nodup_map hnodup (List.mem_of_find?_eq_some hfind) hl
      (hkey'.trans hkey.symm))

section Roots

theorem OpensWith.key {root : Location} (h : OpensWith store resources backends fallback host root) :
    root.key = rootKey := by
  cases h <;> rfl

theorem openedHosts_root (h : locationsAt? (openedHosts store resources backends fallback) host = some ls) :
    ∃ root, ls = [root] ∧ root.key = rootKey := by
  obtain ⟨root, rfl, hroot⟩ := openedHosts_cases h
  exact ⟨root, rfl, hroot.key⟩

theorem openedHosts_catchAll (store : Store) (resources : List RoutedIngress) (backends : Table Backend)
    (fallback : Backend) :
    ∃ root, locationsAt? (openedHosts store resources backends fallback) catchAllHost = some [root] ∧
      (root.isFallback = true ↔
        ∀ r ∈ primaries resources, (r.ownFallback? backends).isSome → r.rules ≠ []) := by
  have hrun (rs : List RoutedIngress) (hosts : Table VirtualHost) (root : Location)
      (hroot : locationsAt? hosts catchAllHost = some [root]) :
      ∃ root', locationsAt? (rs.foldl (openHosts backends fallback) hosts) catchAllHost = some [root'] ∧
        (root'.isFallback = true ↔
          root.isFallback = true ∧ ∀ r ∈ rs, (r.ownFallback? backends).isSome → r.rules ≠ []) := by
    induction rs generalizing hosts root with
    | nil => exact ⟨root, hroot, by simp⟩
    | cons r rs ih =>
      have hopen : locationsAt? (openHosts backends fallback hosts r) catchAllHost =
          some (r.claimRoot backends [root]) := by
        rw [locationsAt?_openHosts, hroot]
        rfl
      rcases r.claimRoot_singleton backends root with ⟨hself, hkept⟩ | ⟨backend, hown, hrules, _, htaken⟩
      · rw [hself] at hopen
        obtain ⟨root', hroot', hiff⟩ := ih _ root hopen
        refine ⟨root', hroot', hiff.trans ?_⟩
        rw [List.forall_mem_cons, and_left_comm]
        refine ⟨fun h => ⟨fun hsome hrules => ?_, h⟩, fun h => h.2⟩
        simp [hkept hsome hrules] at h
      · rw [htaken] at hopen
        obtain ⟨root', hroot', hiff⟩ := ih _ _ hopen
        refine ⟨root', hroot', hiff.trans ?_⟩
        constructor
        · rintro ⟨h, _⟩
          cases h
        · rintro ⟨_, h⟩
          exact (h r List.mem_cons_self (by simp [hown]) hrules).elim
  obtain ⟨root, hroot, hiff⟩ := hrun (primaries resources)
    (Table.empty.insert catchAllHost (.catchAll store fallback)) (catchAllRoot store fallback)
    (by rw [locationsAt?_insert, if_pos rfl]; rfl)
  exact ⟨root, hroot, hiff.trans (and_iff_right rfl)⟩

end Roots

section Append

theorem primaries_append (resources : List RoutedIngress) (c : RoutedIngress) :
    primaries (resources ++ [c]) = primaries resources ++ if c.isCanary then [] else [c] := by
  unfold primaries
  rw [List.filter_append]
  cases h : c.isCanary <;> simp [h]

theorem allClaims_append (resources : List RoutedIngress) (c : RoutedIngress) :
    allClaims (resources ++ [c]) =
      allClaims resources ++ if c.isCanary then [] else c.pathClaims.map (c, ·) := by
  unfold allClaims
  rw [primaries_append, List.flatMap_append]
  cases c.isCanary <;> simp

theorem Store.built_append (hr : r ∈ resources) {service : ServiceRef} (hservice : service ∈ r.serviceRefs) :
    (store.built now defaultService (resources ++ [c])).backends.get? (r.backendName service) =
      (store.built now defaultService resources).backends.get? (r.backendName service) := by
  have href : (r, service) ∈ allReferences resources := mem_allReferences.2 ⟨hr, hservice⟩
  have hthere : (store.buildBackends resources (store.fallback defaultService)).1.contains
      (r.backendName service) := buildBackends_contains href
  exact buildBackends_append hthere

theorem Store.ownFallback?_append (hr : r ∈ resources) :
    r.ownFallback? (store.built now defaultService (resources ++ [c])).backends =
      r.ownFallback? (store.built now defaultService resources).backends := by
  unfold RoutedIngress.ownFallback?
  cases hservice : r.defaultService with
  | none => rfl
  | some service => exact built_append hr (RoutedIngress.defaultService_mem_serviceRefs hservice)

theorem Store.placeClaim_append {claimed : RoutedIngress × PathClaim}
    (hclaimed : claimed ∈ allClaims resources) (ls : List Location) :
    placeClaim (store.built now defaultService (resources ++ [c])).backends ls claimed =
      placeClaim (store.built now defaultService resources).backends ls claimed := by
  obtain ⟨hr, hclaim⟩ := mem_allClaims.1 hclaimed
  exact placeClaim_congr (built_append (mem_primaries.1 hr).1
    (RoutedIngress.service_mem_serviceRefs hclaim)) ls

theorem foldl_placeClaim_congr {others : Table Backend} {claims : List (RoutedIngress × PathClaim)}
    (h : ∀ claimed ∈ claims, ∀ ls, placeClaim others ls claimed = placeClaim backends ls claimed)
    (ls : List Location) : claims.foldl (placeClaim others) ls = claims.foldl (placeClaim backends) ls := by
  induction claims generalizing ls with
  | nil => rfl
  | cons claimed claims ih =>
    rw [List.foldl_cons, List.foldl_cons, h claimed List.mem_cons_self,
      ih fun claimed hclaimed => h claimed (List.mem_cons_of_mem _ hclaimed)]

theorem Store.openedHosts_append :
    openedHosts store (resources ++ [c]) (store.built now defaultService (resources ++ [c])).backends
        fallback =
      (if c.isCanary then id else fun hosts => openHosts
        (store.built now defaultService (resources ++ [c])).backends fallback hosts c)
        (openedHosts store resources (store.built now defaultService resources).backends fallback) := by
  have hsame (rs : List RoutedIngress) (hrs : ∀ r ∈ rs, r ∈ resources) (hosts : Table VirtualHost) :
      rs.foldl (openHosts (store.built now defaultService (resources ++ [c])).backends fallback) hosts =
        rs.foldl (openHosts (store.built now defaultService resources).backends fallback) hosts := by
    induction rs generalizing hosts with
    | nil => rfl
    | cons r rs ih =>
      have hopen (hosts : Table VirtualHost) :
          openHosts (store.built now defaultService (resources ++ [c])).backends fallback hosts r =
            openHosts (store.built now defaultService resources).backends fallback hosts r := by
        unfold openHosts
        rw [ownFallback?_append (hrs r List.mem_cons_self)]
      rw [List.foldl_cons, List.foldl_cons, hopen, ih fun r hr => hrs r (List.mem_cons_of_mem _ hr)]
  unfold openedHosts
  rw [primaries_append, List.foldl_append, hsame _ fun r hr => (mem_primaries.1 hr).1]
  cases c.isCanary <;> rfl

end Append

section TakenRoot
variable {root : Location}

def withRoot (root : Location) (l : Location) : Location := if l.key = rootKey then root else l

theorem replaceFirst_map {α : Type} {p : α → Bool} {f g : α → α} (hp : ∀ x, p (g x) = p x)
    (hf : ∀ x, p x → f (g x) = g (f x)) (xs : List α) :
    replaceFirst p f (xs.map g) = (replaceFirst p f xs).map g := by
  induction xs with
  | nil => rfl
  | cons x xs ih =>
    simp only [List.map_cons, replaceFirst, hp]
    split
    next h => rw [List.map_cons, hf x h]
    next => rw [List.map_cons, ih]

theorem withRoot_key (hkey : root.key = rootKey) (l : Location) : (withRoot root l).key = l.key := by
  unfold withRoot
  split
  next h => rw [hkey, h]
  next => rfl

theorem isFor_withRoot (hkey : root.key = rootKey) (claim : PathClaim) (l : Location) :
    claim.isFor (withRoot root l) = claim.isFor l := by
  rw [Bool.eq_iff_iff, PathClaim.isFor_iff, PathClaim.isFor_iff, withRoot_key hkey]

theorem find?_withRoot (hkey : root.key = rootKey) (claim : PathClaim) (ls : List Location) :
    (ls.map (withRoot root)).find? claim.isFor = (ls.find? claim.isFor).map (withRoot root) := by
  rw [List.find?_map]
  exact congrArg (fun p => (ls.find? p).map (withRoot root)) (funext (isFor_withRoot hkey claim))

theorem replaceFirst_claimed_root {claim : PathClaim} (hclaim : claim.key = rootKey)
    (r : RoutedIngress) (backend : Backend) (ls : List Location) :
    (replaceFirst claim.isFor (·.claimed r claim backend) ls).map (withRoot root) =
      ls.map (withRoot root) := by
  refine map_replaceFirst fun l hl => ?_
  have hlkey : l.key = rootKey := (PathClaim.isFor_iff.1 hl).trans hclaim
  have hclaimedKey : (l.claimed r claim backend).key = rootKey := hlkey
  rw [withRoot, if_pos hclaimedKey, withRoot, if_pos hlkey]

theorem replaceFirst_claimed_other (hkey : root.key = rootKey) {claim : PathClaim}
    (hclaim : claim.key ≠ rootKey) (r : RoutedIngress) (backend : Backend) (ls : List Location) :
    replaceFirst claim.isFor (·.claimed r claim backend) (ls.map (withRoot root)) =
      (replaceFirst claim.isFor (·.claimed r claim backend) ls).map (withRoot root) := by
  refine replaceFirst_map (isFor_withRoot hkey claim) (fun l hl => ?_) ls
  have hlkey : l.key ≠ rootKey := by
    rw [PathClaim.isFor_iff.1 hl]
    exact hclaim
  have hclaimedKey : (l.claimed r claim backend).key ≠ rootKey := hlkey
  rw [withRoot, if_neg hlkey, withRoot, if_neg hclaimedKey]

theorem placeClaim_withRoot (hkey : root.key = rootKey) (htaken : root.isFallback = false)
    (hroot : ∃ l ∈ ls, l.key = rootKey) (claimed : RoutedIngress × PathClaim) :
    placeClaim backends (ls.map (withRoot root)) claimed =
      (placeClaim backends ls claimed).map (withRoot root) := by
  unfold placeClaim
  cases backends.get? (claimedName claimed) with
  | none => rfl
  | some backend =>
    dsimp only
    split
    next => rfl
    next =>
      rw [find?_withRoot hkey]
      cases hclaim : ls.find? claimed.2.isFor with
      | none =>
        -- the root is there, so the claim is on another path
        have hne : (Location.ofClaim claimed.1 claimed.2 backend).key ≠ rootKey := by
          intro heq
          obtain ⟨l, hl, hlkey⟩ := hroot
          have hnot := List.find?_eq_none.1 hclaim l hl
          rw [PathClaim.isFor_iff, hlkey] at hnot
          exact hnot heq.symm
        simp [withRoot, hne]
      | some l =>
        have hlkey : l.key = claimed.2.key := PathClaim.isFor_iff.1 (List.find?_some hclaim)
        dsimp only [Option.map_some]
        by_cases hclaimed : claimed.2.key = rootKey
        · have hl : withRoot root l = root := if_pos (hlkey.trans hclaimed)
          simp only [hl, htaken, Bool.false_eq_true, if_false]
          split
          · exact (replaceFirst_claimed_root hclaimed claimed.1 backend ls).symm
          · rfl
        · have hl : withRoot root l = l := if_neg (by rw [hlkey]; exact hclaimed)
          rw [hl]
          split
          · exact replaceFirst_claimed_other hkey hclaimed claimed.1 backend ls
          · rfl

theorem exists_key_placeClaim {k : String × PathType} (h : ∃ l ∈ ls, l.key = k)
    (claimed : RoutedIngress × PathClaim) : ∃ l ∈ placeClaim backends ls claimed, l.key = k :=
  List.mem_map.1 ((keys_prefix_placeClaim backends ls claimed).subset (List.mem_map.2 h))

theorem foldl_placeClaim_withRoot (hkey : root.key = rootKey) (htaken : root.isFallback = false)
    (claims : List (RoutedIngress × PathClaim)) (hroot : ∃ l ∈ ls, l.key = rootKey) :
    claims.foldl (placeClaim backends) (ls.map (withRoot root)) =
      (claims.foldl (placeClaim backends) ls).map (withRoot root) := by
  induction claims generalizing ls with
  | nil => rfl
  | cons claimed claims ih =>
    rw [List.foldl_cons, List.foldl_cons, placeClaim_withRoot hkey htaken hroot,
      ih (exists_key_placeClaim hroot claimed)]

end TakenRoot

/-- Whether an ingress that comes behind others takes a path of a host from whatever rule has claimed it:
the root of the catch-all host, if the ingress has a default backend and no rules, and is the first of that
kind. -/
def Takes (resources : List RoutedIngress) (c : RoutedIngress) (host : String) (key : String × PathType) :
    Prop :=
  c.isCanary = false ∧ c.wantsRoot = true ∧ host = catchAllHost ∧ key = rootKey ∧
    ∀ r ∈ primaries resources, r.wantsRoot = false

/-- Whether a path of a host is led to where a rule or an ingress without rules of this owner wants it. -/
def Owns (hosts : Table VirtualHost) (host : String) (key : String × PathType) (owner : Owner) : Prop :=
  ∃ ls, locationsAt? hosts host = some ls ∧
    ∃ l ∈ ls, l.key = key ∧ l.isFallback = false ∧ l.owner = some owner

instance (hosts : Table VirtualHost) (host : String) (key : String × PathType) (owner : Owner) :
    Decidable (Owns hosts host key owner) :=
  decidable_of_iff (∃ l ∈ (locationsAt? hosts host).getD [],
    l.key = key ∧ l.isFallback = false ∧ l.owner = some owner) (by
      unfold Owns
      cases locationsAt? hosts host <;> simp)

instance (resources : List RoutedIngress) (c : RoutedIngress) (host : String) (key : String × PathType) :
    Decidable (Takes resources c host key) := by
  unfold Takes
  infer_instance

namespace Store

theorem wantsRoot_iff (hr : r ∈ resources) : r.wantsRoot = true ↔
    (r.ownFallback? (store.built now defaultService resources).backends).isSome ∧ r.rules = [] := by
  rw [ownFallback?_built hr, RoutedIngress.wantsRoot, Bool.and_eq_true, List.isEmpty_iff, and_comm]

theorem locationsAt?_opened_append (hcanary : c.isCanary = false)
    (h : locationsAt? (openedHosts store resources (store.built now defaultService resources).backends
      fallback) host = some ls) :
    ∃ start, locationsAt? (openedHosts store (resources ++ [c])
        (store.built now defaultService (resources ++ [c])).backends fallback) host = some start ∧
      (start = ls ∧ ¬ Takes resources c host rootKey ∨
        ∃ root : Location, root.key = rootKey ∧ root.isFallback = false ∧ root.owner = some c.owner ∧
          Takes resources c host rootKey ∧ start = ls.map (withRoot root)) := by
  have hc : c ∈ resources ++ [c] := List.mem_append_right _ List.mem_cons_self
  refine ⟨if host = catchAllHost then
    c.claimRoot (store.built now defaultService (resources ++ [c])).backends ls else ls, ?_, ?_⟩
  · rw [openedHosts_append, hcanary]
    simp only [Bool.false_eq_true, if_false, locationsAt?_openHosts, h, Option.map_some, Option.some_or]
  · by_cases hhost : host = catchAllHost
    · subst hhost
      obtain ⟨root, hroot, hfallback⟩ := openedHosts_catchAll store resources
        (store.built now defaultService resources).backends fallback
      obtain rfl : ls = [root] := Option.some.inj (h.symm.trans hroot)
      obtain ⟨_, heq, hkey⟩ := openedHosts_root h
      obtain rfl := (List.cons.inj heq).1
      have hfree : root.isFallback = true ↔ ∀ r ∈ primaries resources, r.wantsRoot = false := by
        rw [hfallback]
        refine forall₂_congr fun r hr => ?_
        rw [← Bool.not_eq_true, wantsRoot_iff (mem_primaries.1 hr).1, not_and]
      rw [if_pos rfl]
      rcases c.claimRoot_singleton (store.built now defaultService (resources ++ [c])).backends root with
        ⟨hself, hkept⟩ | ⟨backend, hown, hrules, hroot, htaken⟩
      · refine .inl ⟨hself, fun ⟨_, hwants, _, _, hnone⟩ => ?_⟩
        obtain ⟨hsome, hrules⟩ := (wantsRoot_iff hc).1 hwants
        have hflag := hkept hsome hrules
        rw [hfree.2 hnone] at hflag
        cases hflag
      · have hwants : c.wantsRoot = true := (wantsRoot_iff hc).2 ⟨by rw [hown]; rfl, hrules⟩
        refine .inr ⟨root.takeOver c backend, hkey, rfl, rfl,
          ⟨hcanary, hwants, rfl, rfl, hfree.1 hroot⟩, ?_⟩
        rw [htaken, List.map_singleton, withRoot, if_pos hkey]
    · rw [if_neg hhost]
      exact .inl ⟨rfl, fun htakes => hhost htakes.2.2.1⟩

theorem locationsAt?_wired_last (host : String) :
    locationsAt? (store.wired now defaultService (resources ++ [c])).hosts host =
      (locationsAt? (openedHosts store (resources ++ [c])
          (store.built now defaultService (resources ++ [c])).backends (store.fallback defaultService))
          host).map fun ls =>
        ((if c.isCanary then [] else c.pathClaims.map (c, ·)).filter (·.2.host = host)).foldl
          (placeClaim (store.built now defaultService (resources ++ [c])).backends)
          (((allClaims resources).filter (·.2.host = host)).foldl
            (placeClaim (store.built now defaultService resources).backends) ls) := by
  rw [locationsAt?_wired, allClaims_append, List.filter_append]
  refine congrArg (Option.map · _) (funext fun ls => ?_)
  rw [List.foldl_append, foldl_placeClaim_congr fun claimed hclaimed =>
    placeClaim_append (List.mem_filter.1 hclaimed).1]

/-- The locations of a host with one more ingress behind the others: those that are taken stay, but for a
root that the last ingress takes. -/
theorem locationsAt?_wired_append
    (h : locationsAt? (store.wired now defaultService resources).hosts host = some ls) :
    ∃ ls', locationsAt? (store.wired now defaultService (resources ++ [c])).hosts host = some ls' ∧
      ((∀ l ∈ ls, l.isFallback = false → l ∈ ls') ∧ ¬ Takes resources c host rootKey ∨
        ∃ root : Location, root.key = rootKey ∧ root.isFallback = false ∧ root.owner = some c.owner ∧
          Takes resources c host rootKey ∧ ls' = ls.map (withRoot root)) := by
  rw [locationsAt?_wired] at h
  obtain ⟨old, hold, rfl⟩ := Option.map_eq_some_iff.1 h
  have hstay (claims : List (RoutedIngress × PathClaim)) (l : Location) (ls : List Location)
      (hl : l ∈ ls) (htaken : l.isFallback = false) :
      l ∈ claims.foldl (placeClaim (store.built now defaultService (resources ++ [c])).backends) ls :=
    List.foldlRecOn (motive := fun ls => l ∈ ls) claims _ hl fun _ hmem _ _ =>
      mem_placeClaim_of_taken hmem htaken
  rw [locationsAt?_wired_last]
  cases hcanary : c.isCanary with
  | true =>
    have hnot : ¬ Takes resources c host rootKey := fun htakes => by simp [htakes.1] at hcanary
    have hopened : locationsAt? (openedHosts store (resources ++ [c])
        (store.built now defaultService (resources ++ [c])).backends (store.fallback defaultService)) host =
        some old := by
      rw [openedHosts_append, hcanary]
      exact hold
    rw [hopened]
    exact ⟨_, rfl, .inl ⟨fun l hl htaken => hstay _ l _ hl htaken, hnot⟩⟩
  | false =>
    obtain ⟨start, hstart, hcases⟩ := locationsAt?_opened_append hcanary hold
    refine ⟨_, by rw [hstart]; rfl, ?_⟩
    rcases hcases with ⟨rfl, hnot⟩ | ⟨root, hkey, htaken, howner, htakes, rfl⟩
    · exact .inl ⟨fun l hl htaken => hstay _ l _ hl htaken, hnot⟩
    · have hclaims : c.pathClaims = [] := by
        have hrules : c.rules = [] := by
          simpa [RoutedIngress.wantsRoot] using (Bool.and_eq_true_iff.1 htakes.2.1).1
        simp [RoutedIngress.pathClaims, hrules]
      obtain ⟨opened, rfl, hopened⟩ := openedHosts_root hold
      refine .inr ⟨root, hkey, htaken, howner, htakes, ?_⟩
      rw [hclaims]
      exact foldl_placeClaim_withRoot hkey htaken _ ⟨opened, List.mem_singleton_self _, hopened⟩

end Store

/-- With one more ingress behind the others each path keeps its owner, unless that ingress takes it. -/
theorem Owns.append {key : String × PathType} {owner : Owner}
    (h : Owns (store.wired now defaultService resources).hosts host key owner) :
    (¬ Takes resources c host key ∧
        Owns (store.wired now defaultService (resources ++ [c])).hosts host key owner) ∨
      Takes resources c host key ∧
        Owns (store.wired now defaultService (resources ++ [c])).hosts host key c.owner := by
  obtain ⟨ls, hls, l, hl, rfl, htaken, howner⟩ := h
  obtain ⟨ls', hls', ⟨hstay, hnot⟩ | ⟨root, hkey, hroot, hrootOwner, htakes, rfl⟩⟩ :=
    Store.locationsAt?_wired_append (c := c) hls
  · refine .inl ⟨fun htakes => hnot ?_, ls', hls', l, hstay l hl htaken, rfl, htaken, howner⟩
    exact htakes.2.2.2.1 ▸ htakes
  · by_cases hlkey : l.key = rootKey
    · rw [hlkey]
      refine .inr ⟨htakes, _, hls', root, ?_, hkey, hroot, hrootOwner⟩
      exact List.mem_map.2 ⟨l, hl, if_pos hlkey⟩
    · refine .inl ⟨fun h => hlkey h.2.2.2.1, _, hls', l, ?_, rfl, htaken, howner⟩
      exact List.mem_map.2 ⟨l, hl, if_neg hlkey⟩

theorem Store.nodup_wired (h : locationsAt? (store.wired now defaultService resources).hosts host = some ls) :
    (ls.map Location.key).Nodup := by
  rw [locationsAt?_wired] at h
  obtain ⟨old, hold, rfl⟩ := Option.map_eq_some_iff.1 h
  obtain ⟨root, rfl, _⟩ := openedHosts_root hold
  exact List.foldlRecOn (motive := fun ls : List Location => (ls.map Location.key).Nodup) _ _
    (List.nodup_singleton _) fun _ hnodup _ _ => nodup_keys_placeClaim hnodup

theorem Owns.unique {key : String × PathType} {a b : Owner}
    (ha : Owns (store.wired now defaultService resources).hosts host key a)
    (hb : Owns (store.wired now defaultService resources).hosts host key b) : a = b := by
  obtain ⟨ls, hls, l, hl, rfl, _, howner⟩ := ha
  obtain ⟨ls', hls', l', hl', hkey, _, howner'⟩ := hb
  obtain rfl : ls = ls' := Option.some.inj (hls.symm.trans hls')
  obtain rfl : l' = l := List.inj_on_of_nodup_map (Store.nodup_wired hls) hl' hl hkey
  exact Option.some.inj (howner.symm.trans howner')

theorem owns_unexpanded {key : String × PathType} {owner : Owner} :
    Owns (store.unexpanded now defaultService resources).hosts host key owner ↔
      Owns (store.wired now defaultService resources).hosts host key owner := by
  obtain ⟨f, hf, hlocations⟩ := store.locationsAt?_unexpanded now defaultService resources
  have hsame (l : Location) :
      (f l).key = l.key ∧ (f l).isFallback = l.isFallback ∧ (f l).owner = l.owner :=
    ⟨by simpa using congrArg Location.key (hf l), by simpa using congrArg Location.isFallback (hf l),
      by simpa using congrArg Location.owner (hf l)⟩
  simp only [Owns, hlocations, Option.map_eq_some_iff]
  constructor
  · rintro ⟨_, ⟨ls, hls, rfl⟩, l', hl', hkey, htaken, howner⟩
    obtain ⟨l, hl, rfl⟩ := List.mem_map.1 hl'
    rw [(hsame l).1] at hkey
    rw [(hsame l).2.1] at htaken
    rw [(hsame l).2.2] at howner
    exact ⟨ls, hls, l, hl, hkey, htaken, howner⟩
  · rintro ⟨ls, hls, l, hl, hkey, htaken, howner⟩
    refine ⟨_, ⟨ls, hls, rfl⟩, f l, List.mem_map.2 ⟨l, hl, rfl⟩, ?_⟩
    rw [(hsame l).1, (hsame l).2.1, (hsame l).2.2]
    exact ⟨hkey, htaken, howner⟩

end IngressPlane
