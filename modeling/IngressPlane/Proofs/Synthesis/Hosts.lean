import IngressPlane.Proofs.Synthesis.Backends
import IngressPlane.Synthesis.Draft
import IngressPlane.Synthesis.Hosts

/-! The locations of the built hosts. Merging texts, aliases and certificates touches no location, so
they are those of `openedHosts`: a root for every hostname of a rule, and the root of the catch-all host,
which the first ingress without rules takes. What else a host is opened with it has from the first rule for it,
or else it is the catch-all host (`openedHosts_opensAs`). -/
namespace IngressPlane

variable {store : Store} {backends : Table Backend} {fallback : Backend}
  {hosts : Table VirtualHost} {r : RoutedIngress}

def locationsAt? (hosts : Table VirtualHost) (host : String) : Option (List Location) :=
  (hosts.get? host).map (·.locations)

theorem locationsAt?_insert (hosts : Table VirtualHost) (name host : String) (v : VirtualHost) :
    locationsAt? (hosts.insert name v) host =
      if name = host then some v.locations else locationsAt? hosts host := by
  simp only [locationsAt?, Table.get?_insert]
  split <;> rfl

theorem locationsAt?_map {f : VirtualHost → VirtualHost} (hf : ∀ v, (f v).locations = v.locations)
    (hosts : Table VirtualHost) (host : String) :
    locationsAt? (hosts.map f) host = locationsAt? hosts host := by
  simp only [locationsAt?, Table.get?_map, Option.map_map]
  exact congrArg (Option.map · (hosts.get? host)) (funext hf)

/-- What the location of an ingress has of its policy, whatever it has kept from before. -/
structure LocationPolicy.Follows (p : LocationPolicy) (policy : Policy) : Prop where
  auth : p.auth = policy.auth
  denied : p.denied = policy.denied
  backendProtocol : p.backendProtocol = policy.backendProtocol
  defaultBackend : p.defaultBackend = policy.defaultBackend
  http2PushPreload : p.http2PushPreload = policy.http2PushPreload
  tracing : p.tracing = policy.tracing
  configurationSnippet : p.configurationSnippet = policy.configurationSnippet
  logs : p.logs = policy.logs

/-- All that a location can have of a policy, the path mapping and the redirect included. -/
structure LocationPolicy.Copies (p : LocationPolicy) (policy : Policy) : Prop extends p.Follows policy where
  mapping : p.mapping = policy.mapping
  redirect : p.redirect = policy.redirect

theorem Policy.copies_forLocation (policy : Policy) : policy.forLocation.Copies policy := by
  refine ⟨⟨?_, ?_, ?_, ?_, ?_, ?_, ?_, ?_⟩, ?_, ?_⟩ <;> rfl

theorem isSome_locationsAt? {hosts : Table VirtualHost} {host : String} :
    (locationsAt? hosts host).isSome = hosts.contains host := by simp [locationsAt?, Table.contains]

namespace RoutedIngress

def hostnames (r : RoutedIngress) : List String := r.rules.map (·.hostname)

def wantsRoot (r : RoutedIngress) : Bool := r.rules.isEmpty && r.defaultService.isSome

def placeholder (r : RoutedIngress) (target : String) : Location :=
  { Location.at rootPath .under target with
    isFallback := true
    owner := some r.owner
    policy := r.policy.forLocation }

def fallbackName (r : RoutedIngress) (backends : Table Backend) (fallback : Backend) : String :=
  ((r.ownFallback? backends).map (·.name)).getD fallback.name

def claimRoot (r : RoutedIngress) (backends : Table Backend) (ls : List Location) : List Location :=
  match r.ownFallback? backends with
  | none => ls
  | some backend =>
    if r.rules.isEmpty then
      match ls with
      | [] => []
      | root :: rest => if root.isFallback then root.takeOver r backend :: rest else root :: rest
    else ls

end RoutedIngress

theorem ruleHosts_eq (resources : List RoutedIngress) :
    ruleHosts resources = (primaries resources).flatMap fun r => r.hostnames.map (r, ·) := by
  simp only [ruleHosts, RoutedIngress.hostnames, List.map_map]
  rfl

theorem VirtualHost.takeRoot_locations (v : VirtualHost) (r : RoutedIngress) (backend : Backend) :
    (v.takeRoot r backend).locations =
      match v.locations with
      | [] => []
      | root :: rest => if root.isFallback then root.takeOver r backend :: rest else root :: rest := by
  unfold VirtualHost.takeRoot
  split
  next h => simp [h]
  next root rest h => split <;> simp_all

theorem get?_openRules (r : RoutedIngress) (target : String) (hosts : Table VirtualHost) (host : String) :
    (r.rules.foldl (fun hosts rule =>
        hosts.insertNew rule.hostname (.ofRule r rule.hostname target)) hosts).get? host =
      (hosts.get? host).or (if host ∈ r.hostnames then some (.ofRule r host target) else none) := by
  rw [Table.get?_foldl_insertNew (·.hostname)
    fun rule : HostRule => VirtualHost.ofRule r rule.hostname target]
  congr 1
  cases hfind : r.rules.find? (·.hostname = host) with
  | none =>
    have hnot : host ∉ r.hostnames := by
      simpa [RoutedIngress.hostnames, eq_comm] using List.find?_eq_none.1 hfind
    simp [hnot]
  | some rule =>
    have hname : rule.hostname = host := by simpa using List.find?_some hfind
    have hmem : host ∈ r.hostnames := List.mem_map.2 ⟨rule, List.mem_of_find?_eq_some hfind, hname⟩
    rw [if_pos hmem, Option.map_some, hname]

theorem locationsAt?_openRules (r : RoutedIngress) (target : String) (hosts : Table VirtualHost)
    (host : String) :
    locationsAt? (r.rules.foldl (fun hosts rule =>
        hosts.insertNew rule.hostname (.ofRule r rule.hostname target)) hosts) host =
      (locationsAt? hosts host).or (if host ∈ r.hostnames then some [r.placeholder target] else none) := by
  unfold locationsAt?
  rw [get?_openRules, Option.map_or]
  split <;> rfl

theorem locationsAt?_takeRoot (r : RoutedIngress) (backends : Table Backend)
    (hosts : Table VirtualHost) (host : String) :
    locationsAt? (match r.ownFallback? backends with
      | some backend =>
        if r.rules.isEmpty then hosts.modify catchAllHost (·.takeRoot r backend) else hosts
      | none => hosts) host =
      (locationsAt? hosts host).map fun ls =>
        if host = catchAllHost then r.claimRoot backends ls else ls := by
  cases hown : r.ownFallback? backends with
  | none => simp [RoutedIngress.claimRoot, hown]
  | some backend =>
    by_cases hrules : r.rules.isEmpty
    · simp only [hrules, if_true, locationsAt?, Table.get?_modify]
      by_cases hhost : host = catchAllHost
      · subst hhost
        cases hosts.get? catchAllHost with
        | none => rfl
        | some v => simp [RoutedIngress.claimRoot, hown, hrules, VirtualHost.takeRoot_locations]
      · simp only [hhost, if_false, Option.map_map]
        rfl
    · simp [RoutedIngress.claimRoot, hown, hrules]

/-- Opening hosts for an ingress: those that are there keep their locations, but for the root that the
ingress may take; each new one has a placeholder. -/
theorem locationsAt?_openHosts (host : String) :
    locationsAt? (openHosts backends fallback hosts r) host =
      ((locationsAt? hosts host).map fun ls =>
        if host = catchAllHost then r.claimRoot backends ls else ls).or
        (if host ∈ r.hostnames then some [r.placeholder (r.fallbackName backends fallback)]
          else none) := by
  rw [← locationsAt?_takeRoot]
  exact locationsAt?_openRules r (r.fallbackName backends fallback) _ host

/-- The hosts as they are opened, before texts and certificates are merged into them. -/
def openedHosts (store : Store) (resources : List RoutedIngress) (backends : Table Backend)
    (fallback : Backend) : Table VirtualHost :=
  (primaries resources).foldl (openHosts backends fallback)
    (Table.empty.insert catchAllHost (.catchAll store fallback))

theorem map_mergeRule {β : Type} {part : VirtualHost → β} (hmerge : ∀ v policy, part (v.merge policy) = part v)
    (hcertify : ∀ v keyPair, part { v with keyPair } = part v) (now : Instant)
    (merged : Table VirtualHost × List Diagnostic) (rule : RoutedIngress × String) (host : String) :
    ((mergeRule store now merged rule).1.get? host).map part = (merged.1.get? host).map part := by
  unfold mergeRule
  split
  · rfl
  next v hv =>
    have hsame : part ((v.merge rule.1.policy).certify store now rule.1).1 = part v := by
      unfold VirtualHost.certify
      split
      · exact hmerge v _
      · exact (hcertify _ _).trans (hmerge v _)
    rw [Table.get?_insert]
    split
    next heq => rw [← heq, hv, Option.map_some, Option.map_some, hsame]
    next => rfl

theorem map_foldl_mergeRule {β : Type} {part : VirtualHost → β}
    (hmerge : ∀ v policy, part (v.merge policy) = part v)
    (hcertify : ∀ v keyPair, part { v with keyPair } = part v) (now : Instant)
    (rules : List (RoutedIngress × String)) (merged : Table VirtualHost × List Diagnostic) (host : String) :
    ((rules.foldl (mergeRule store now) merged).1.get? host).map part = (merged.1.get? host).map part := by
  induction rules generalizing merged with
  | nil => rfl
  | cons rule rules ih => rw [List.foldl_cons, ih, map_mergeRule hmerge hcertify]

theorem locationsAt?_mergeRule (now : Instant) (merged : Table VirtualHost × List Diagnostic)
    (rule : RoutedIngress × String) (host : String) :
    locationsAt? (mergeRule store now merged rule).1 host = locationsAt? merged.1 host :=
  map_mergeRule (fun _ _ => rfl) (fun _ _ => rfl) now merged rule host

theorem locationsAt?_foldl_mergeRule (now : Instant) (rules : List (RoutedIngress × String))
    (merged : Table VirtualHost × List Diagnostic) (host : String) :
    locationsAt? (rules.foldl (mergeRule store now) merged).1 host = locationsAt? merged.1 host :=
  map_foldl_mergeRule (fun _ _ => rfl) (fun _ _ => rfl) now rules merged host

theorem locationsAt?_buildHosts (store : Store) (now : Instant) (resources : List RoutedIngress)
    (backends : Table Backend) (fallback : Backend) (host : String) :
    locationsAt? (store.buildHosts now resources backends fallback).1 host =
      locationsAt? (openedHosts store resources backends fallback) host := by
  have hdrop (names : List String) (v : VirtualHost) :
      (v.dropHostAliases names).locations = v.locations := rfl
  exact (locationsAt?_map (hdrop _) _ host).trans (locationsAt?_foldl_mergeRule now _ _ host)

def AllLocations (P : Location → Prop) (hosts : Table VirtualHost) : Prop :=
  ∀ host ls, locationsAt? hosts host = some ls → ∀ l ∈ ls, P l

theorem mem_locations {d : Draft} {l : Location} :
    l ∈ d.locations ↔ ∃ host ls, locationsAt? d.hosts host = some ls ∧ l ∈ ls := by
  simp only [Draft.locations, List.mem_flatMap, Table.mem_values, locationsAt?, Option.map_eq_some_iff]
  constructor
  · rintro ⟨v, ⟨host, hv⟩, hl⟩
    exact ⟨host, v.locations, ⟨v, hv, rfl⟩, hl⟩
  · rintro ⟨host, _, ⟨v, hv, rfl⟩, hl⟩
    exact ⟨v, ⟨host, hv⟩, hl⟩

/-- The root of the catch-all host before any ingress takes it. -/
def catchAllRoot (store : Store) (fallback : Backend) : Location :=
  { Location.at rootPath .under fallback.name with
    isFallback := true
    service := fallback.service
    policy := { logs := { access := store.settings.defaultBackendAccessLog } } }

section Openings
variable {resources : List RoutedIngress} {P : Location → Prop} {ls : List Location} {host : String}

theorem RoutedIngress.claimRoot_singleton (r : RoutedIngress) (backends : Table Backend)
    (root : Location) :
    r.claimRoot backends [root] = [root] ∧
        ((r.ownFallback? backends).isSome → r.rules = [] → root.isFallback = false) ∨
      ∃ backend, r.ownFallback? backends = some backend ∧ r.rules = [] ∧ root.isFallback = true ∧
        r.claimRoot backends [root] = [root.takeOver r backend] := by
  unfold claimRoot
  cases hown : r.ownFallback? backends with
  | none => exact .inl ⟨rfl, by simp⟩
  | some backend =>
    by_cases hrules : r.rules = []
    · cases hroot : root.isFallback with
      | false => exact .inl ⟨by simp [hrules, hroot], fun _ _ => rfl⟩
      | true => exact .inr ⟨backend, rfl, hrules, rfl, by simp [hrules, hroot]⟩
    · exact .inl ⟨by simp [hrules], fun _ h => (hrules h).elim⟩

inductive OpensWith (store : Store) (resources : List RoutedIngress) (backends : Table Backend)
    (fallback : Backend) : String → Location → Prop
  /-- The placeholder of an ingress with a rule for the host. -/
  | placeholder {r : RoutedIngress} {host : String} (hr : r ∈ primaries resources)
      (hhost : host ∈ r.hostnames) (hother : host ≠ catchAllHost) :
      OpensWith store resources backends fallback host (r.placeholder (r.fallbackName backends fallback))
  | catchAll : OpensWith store resources backends fallback catchAllHost (catchAllRoot store fallback)
  /-- The root of the catch-all host, which an ingress without rules has taken. -/
  | taken {r : RoutedIngress} {backend : Backend} (hr : r ∈ primaries resources)
      (hown : r.ownFallback? backends = some backend) (hrules : r.rules = []) :
      OpensWith store resources backends fallback catchAllHost
        ((catchAllRoot store fallback).takeOver r backend)

/-- While hosts are opened each has a root and nothing else. The catch-all host is there from the start, so no
rule puts a placeholder into it. -/
structure Opened (store : Store) (resources : List RoutedIngress) (backends : Table Backend)
    (fallback : Backend) (hosts : Table VirtualHost) : Prop where
  catchAll : (locationsAt? hosts catchAllHost).isSome
  roots : ∀ host ls, locationsAt? hosts host = some ls →
    ∃ root, ls = [root] ∧ OpensWith store resources backends fallback host root

theorem opened_catchAll : Opened store resources backends fallback
    (Table.empty.insert catchAllHost (.catchAll store fallback)) := by
  refine ⟨by rw [locationsAt?_insert, if_pos rfl]; rfl, fun host ls hls => ?_⟩
  rw [locationsAt?_insert] at hls
  split at hls
  next heq =>
    subst heq
    cases hls
    exact ⟨catchAllRoot store fallback, rfl, .catchAll⟩
  next => simp [locationsAt?] at hls

theorem OpensWith.claimRoot {root : Location} (hr : r ∈ primaries resources)
    (h : OpensWith store resources backends fallback catchAllHost root) :
    ∃ root', r.claimRoot backends [root] = [root'] ∧
      OpensWith store resources backends fallback catchAllHost root' := by
  rcases r.claimRoot_singleton backends root with ⟨hself, _⟩ | ⟨backend, hown, hrules, hfree, htaken⟩
  · exact ⟨root, hself, h⟩
  · refine ⟨root.takeOver r backend, htaken, ?_⟩
    cases h with
    | placeholder _ _ hother => exact (hother rfl).elim
    | catchAll => exact .taken hr hown hrules
    | taken _ _ _ => cases hfree

theorem Opened.openHosts (h : Opened store resources backends fallback hosts) (hr : r ∈ primaries resources) :
    Opened store resources backends fallback (openHosts backends fallback hosts r) := by
  refine ⟨?_, fun host ls hls => ?_⟩
  · rw [locationsAt?_openHosts, Option.isSome_or, Option.isSome_map, h.catchAll, Bool.true_or]
  · rw [locationsAt?_openHosts] at hls
    cases hold : locationsAt? hosts host with
    | none =>
      simp only [hold, Option.map_none, Option.none_or, Option.ite_none_right_eq_some,
        Option.some.injEq] at hls
      have hother : host ≠ catchAllHost := by
        rintro rfl
        simpa [hold] using h.catchAll
      exact ⟨_, hls.2.symm, .placeholder hr hls.1 hother⟩
    | some old =>
      obtain ⟨root, rfl, hroot⟩ := h.roots host old hold
      simp only [hold, Option.map_some, Option.some_or, Option.some.injEq] at hls
      split at hls
      next heq =>
        subst heq
        rw [← hls]
        exact hroot.claimRoot hr
      next => exact ⟨root, hls.symm, hroot⟩

theorem openedHosts_cases (h : locationsAt? (openedHosts store resources backends fallback) host = some ls) :
    ∃ root, ls = [root] ∧ OpensWith store resources backends fallback host root := by
  have hopened : Opened store resources backends fallback (openedHosts store resources backends fallback) :=
    List.foldlRecOn _ _ opened_catchAll fun _ hhosts _ hr => hhosts.openHosts hr
  exact hopened.roots host ls h

/-- What holds of the catch-all root, of all placeholders and of the root when it is taken over, holds of all
locations of the opened hosts. -/
theorem allLocations_openedHosts (hroot : P (catchAllRoot store fallback))
    (hplaceholder : ∀ r ∈ primaries resources, P (r.placeholder (r.fallbackName backends fallback)))
    (htake : ∀ r ∈ primaries resources, ∀ backend, r.ownFallback? backends = some backend →
      r.rules = [] → ∀ root, root.isFallback → P root → P (root.takeOver r backend)) :
    AllLocations P (openedHosts store resources backends fallback) := by
  intro host ls hls l hl
  obtain ⟨root, rfl, hopen⟩ := openedHosts_cases hls
  obtain rfl := List.mem_singleton.1 hl
  cases hopen with
  | placeholder hr _ _ => exact hplaceholder _ hr
  | catchAll => exact hroot
  | taken hr hown hrules => exact htake _ hr _ hown hrules _ rfl hroot

theorem contains_openHosts (host : String) :
    (openHosts backends fallback hosts r).contains host =
      (hosts.contains host || decide (host ∈ r.hostnames)) := by
  rw [← isSome_locationsAt?, locationsAt?_openHosts, ← isSome_locationsAt?]
  by_cases hmem : host ∈ r.hostnames <;> simp [hmem]

theorem contains_openedHosts (host : String) :
    (openedHosts store resources backends fallback).contains host =
      (decide (host = catchAllHost) || decide (∃ r ∈ primaries resources, host ∈ r.hostnames)) := by
  have hrun (rs : List RoutedIngress) (hosts : Table VirtualHost) :
      (rs.foldl (openHosts backends fallback) hosts).contains host =
        (hosts.contains host || decide (∃ r ∈ rs, host ∈ r.hostnames)) := by
    induction rs generalizing hosts with
    | nil => simp
    | cons r rs ih => simp [ih, contains_openHosts, Bool.or_assoc]
  rw [openedHosts, hrun, Table.contains_insert]
  simp [Table.contains, eq_comm]

end Openings

/-- A host without what wiring changes of it: its locations, and whether it redirects to and from `www`. -/
def VirtualHost.shell (v : VirtualHost) : VirtualHost := { v with locations := [], redirectFromToWww := false }

@[simp] theorem VirtualHost.shell_hostname (v : VirtualHost) : v.shell.hostname = v.hostname := rfl
@[simp] theorem VirtualHost.shell_keyPair (v : VirtualHost) : v.shell.keyPair = v.keyPair := rfl
@[simp] theorem VirtualHost.shell_snippet (v : VirtualHost) : v.shell.snippet = v.snippet := rfl

theorem VirtualHost.takeRoot_shell (v : VirtualHost) (r : RoutedIngress) (backend : Backend) :
    (v.takeRoot r backend).shell = v.shell := by
  unfold takeRoot
  split
  · rfl
  · split <;> rfl

section Shells
variable {resources : List RoutedIngress} {host : String} {v : VirtualHost}

theorem shell_openHosts (host : String) :
    ((openHosts backends fallback hosts r).get? host).map VirtualHost.shell =
      ((hosts.get? host).map VirtualHost.shell).or
        (if host ∈ r.hostnames then some (VirtualHost.ofRule r host fallback.name).shell else none) := by
  have hopen : ∃ (start : Table VirtualHost) (target : String),
      (start.get? host).map VirtualHost.shell = (hosts.get? host).map VirtualHost.shell ∧
        openHosts backends fallback hosts r = r.rules.foldl (fun hosts rule =>
          hosts.insertNew rule.hostname (.ofRule r rule.hostname target)) start := by
    unfold openHosts
    dsimp only
    split
    next backend _ =>
      split
      · refine ⟨_, _, ?_, rfl⟩
        rw [Table.get?_modify]
        split
        · rw [Option.map_map]
          exact congrArg (Option.map · _) (funext fun v => v.takeRoot_shell r backend)
        · rfl
      · exact ⟨_, _, rfl, rfl⟩
    next => exact ⟨_, _, rfl, rfl⟩
  obtain ⟨start, target, hstart, hopen⟩ := hopen
  rw [hopen, get?_openRules, Option.map_or, hstart]
  split <;> rfl

theorem shell_foldl_openHosts (rs : List RoutedIngress) (hosts : Table VirtualHost) (host : String) :
    ((rs.foldl (openHosts backends fallback) hosts).get? host).map VirtualHost.shell =
      ((hosts.get? host).map VirtualHost.shell).or
        ((rs.find? (host ∈ ·.hostnames)).map fun r => (VirtualHost.ofRule r host fallback.name).shell) := by
  induction rs generalizing hosts with
  | nil => simp
  | cons r rs ih =>
    rw [List.foldl_cons, ih, shell_openHosts, Option.or_assoc, List.find?_cons]
    by_cases hmem : host ∈ r.hostnames <;> simp [hmem]

inductive OpensAs (store : Store) (resources : List RoutedIngress) (fallback : Backend) :
    String → VirtualHost → Prop
  | catchAll {v : VirtualHost} (hshell : v.shell = (VirtualHost.catchAll store fallback).shell) :
      OpensAs store resources fallback catchAllHost v
  /-- As the first ingress with a rule for the host has it. -/
  | byRule {r : RoutedIngress} {host target : String} {v : VirtualHost}
      (hfirst : (primaries resources).find? (host ∈ ·.hostnames) = some r)
      (hother : host ≠ catchAllHost) (hshell : v.shell = (VirtualHost.ofRule r host target).shell) :
      OpensAs store resources fallback host v

theorem openedHosts_opensAs (h : (openedHosts store resources backends fallback).get? host = some v) :
    OpensAs store resources fallback host v := by
  have hshell : some v.shell = _ := (congrArg (Option.map VirtualHost.shell) h).symm.trans
    (shell_foldl_openHosts (primaries resources) _ host)
  rw [Table.get?_insert] at hshell
  split at hshell
  next hhost =>
    subst hhost
    exact .catchAll (Option.some.inj hshell)
  next hother =>
    obtain ⟨r, hfirst, hsame⟩ := Option.map_eq_some_iff.1 hshell.symm
    exact .byRule hfirst (Ne.symm hother) hsame.symm

theorem openedHosts_named : (openedHosts store resources backends fallback).Named VirtualHost.hostname := by
  intro host v hv
  rw [← v.shell_hostname]
  cases openedHosts_opensAs hv with
  | catchAll hshell => rw [hshell]; rfl
  | byRule _ _ hshell => rw [hshell]; rfl

end Shells

theorem mergeRule_named {now : Instant} {m : Table VirtualHost × List Diagnostic}
    (h : m.1.Named VirtualHost.hostname) (rule : RoutedIngress × String) :
    (mergeRule store now m rule).1.Named VirtualHost.hostname := by
  unfold mergeRule
  split
  · exact h
  next v hv =>
    have hname : ((v.merge rule.1.policy).certify store now rule.1).1.hostname = v.hostname := by
      unfold VirtualHost.certify
      split <;> rfl
    exact h.insert (hname.trans (h rule.2 v hv))

theorem foldl_mergeRule_named {now : Instant} (rules : List (RoutedIngress × String))
    {m : Table VirtualHost × List Diagnostic} (h : m.1.Named VirtualHost.hostname) :
    (rules.foldl (mergeRule store now) m).1.Named VirtualHost.hostname :=
  List.foldlRecOn (motive := fun m => m.1.Named VirtualHost.hostname) rules (mergeRule store now) h
    fun _ h rule _ => mergeRule_named h rule

theorem buildHosts_named (store : Store) (now : Instant) (resources : List RoutedIngress)
    (backends : Table Backend) (fallback : Backend) :
    (store.buildHosts now resources backends fallback).1.Named VirtualHost.hostname :=
  (foldl_mergeRule_named _ openedHosts_named).map fun _ => rfl

end IngressPlane
