import Mathlib.Data.List.Forall2
import IngressPlane.Proofs.Synthesis.Hosts
import IngressPlane.Synthesis.Synthesize

/-! What synthesis reads of an ingress: its policy, its name and namespace, its hosts and paths, its default
service and its TLS section. Lists of ingresses that are alike in these, one by one, have the same synthesis
(`Store.synthesize_alike`). -/
namespace IngressPlane

structure RoutedIngress.Alike (a b : RoutedIngress) : Prop where
  policy : a.policy = b.policy
  key : a.key = b.key
  scope : a.scope = b.scope
  anyName : a.ingress.metadata.anyName = b.ingress.metadata.anyName
  hostnames : a.hostnames = b.hostnames
  pathClaims : a.pathClaims = b.pathClaims
  defaultService : a.defaultService = b.defaultService
  tlsList : a.ingress.spec.tlsList = b.ingress.spec.tlsList

variable {store : Store} {now : Instant} {a b : RoutedIngress} {as bs : List RoutedIngress}
  {backends : Table Backend} {fallback : Backend} {hosts : Table VirtualHost}

namespace RoutedIngress.Alike

theorem refl (a : RoutedIngress) : a.Alike a := ⟨rfl, rfl, rfl, rfl, rfl, rfl, rfl, rfl⟩

theorem owner (h : a.Alike b) : a.owner = b.owner := by
  unfold RoutedIngress.owner
  rw [h.scope, h.anyName, h.policy]

theorem isCanary (h : a.Alike b) : a.isCanary = b.isCanary := by
  rw [RoutedIngress.isCanary, h.policy, RoutedIngress.isCanary]

theorem backendName (h : a.Alike b) : a.backendName = b.backendName := by
  funext service
  rw [RoutedIngress.backendName, h.scope, RoutedIngress.backendName]

theorem serviceRefs (h : a.Alike b) : a.serviceRefs = b.serviceRefs := by
  rw [RoutedIngress.serviceRefs, h.defaultService, h.pathClaims, RoutedIngress.serviceRefs]

theorem canaryTargets (h : a.Alike b) : a.canaryTargets = b.canaryTargets := by
  rw [RoutedIngress.canaryTargets, h.defaultService, h.pathClaims, h.backendName, RoutedIngress.canaryTargets]

theorem ownFallback? (h : a.Alike b) : a.ownFallback? backends = b.ownFallback? backends := by
  rw [RoutedIngress.ownFallback?, h.defaultService, h.backendName, RoutedIngress.ownFallback?]

theorem takeRoot (h : a.Alike b) (v : VirtualHost) (backend : Backend) :
    v.takeRoot a backend = v.takeRoot b backend := by
  simp only [VirtualHost.takeRoot, Location.takeOver, h.owner, h.policy]

theorem ofRule (h : a.Alike b) : VirtualHost.ofRule a = VirtualHost.ofRule b := by
  funext host target
  simp only [VirtualHost.ofRule, h.policy, h.owner]

theorem openHosts (h : a.Alike b) : openHosts backends fallback hosts a = openHosts backends fallback hosts b := by
  have hempty : a.rules.isEmpty = b.rules.isEmpty := by
    rw [← List.isEmpty_map (f := HostRule.hostname), ← List.isEmpty_map (f := HostRule.hostname)]
    exact congrArg List.isEmpty h.hostnames
  have hopen (target : String) (start : Table VirtualHost) :
      a.rules.foldl (fun hosts rule => hosts.insertNew rule.hostname (.ofRule a rule.hostname target)) start =
        b.rules.foldl (fun hosts rule => hosts.insertNew rule.hostname (.ofRule b rule.hostname target)) start := by
    have hnames (r : RoutedIngress) :
        r.rules.foldl (fun hosts rule => hosts.insertNew rule.hostname (.ofRule r rule.hostname target)) start =
          r.hostnames.foldl (fun hosts host => hosts.insertNew host (.ofRule r host target)) start := by
      rw [RoutedIngress.hostnames, List.foldl_map]
    rw [hnames, hnames, h.hostnames, h.ofRule]
  unfold IngressPlane.openHosts
  simp only [h.ownFallback?, hempty, h.takeRoot, hopen]

theorem certificateFor (h : a.Alike b) (host : String) :
    store.certificateFor now host a.ingress = store.certificateFor now host b.ingress := by
  have hscope : a.ingress.metadata.scopeText = b.ingress.metadata.scopeText := h.scope
  simp only [Store.certificateFor, Store.provided, hscope, h.tlsList]

theorem mergeRule (h : a.Alike b) (merged : Table VirtualHost × List Diagnostic) (host : String) :
    mergeRule store now merged (a, host) = mergeRule store now merged (b, host) := by
  simp only [IngressPlane.mergeRule, VirtualHost.certify, VirtualHost.mergeNotes, h.policy, h.key, h.tlsList,
    h.certificateFor]

theorem addReference (h : a.Alike b) (built : Table Backend × List Diagnostic) (reference : ServiceRef) :
    Backend.addReference store built (a, reference) = Backend.addReference store built (b, reference) := by
  simp only [Backend.addReference, Backend.ofReference, h.backendName, h.scope, h.policy]

theorem wire (h : a.Alike b) (d : Draft) (claim : PathClaim) : d.wire (a, claim) = d.wire (b, claim) := by
  simp only [Draft.wire, VirtualHost.claim, Location.ofClaim, Location.claimed, h.backendName, h.policy, h.key,
    h.owner]

theorem withoutSnippets (h : a.Alike b) :
    Alike { a with policy := a.policy.withoutSnippets } { b with policy := b.policy.withoutSnippets } :=
  { h with policy := congrArg Policy.withoutSnippets h.policy }

end RoutedIngress.Alike

section Lists
variable {α β γ : Type} {R : α → α → Prop} {xs ys : List α}

theorem foldl_congr_of_forall₂ {step : γ → α → γ} (hstep : ∀ acc x y, R x y → step acc x = step acc y)
    (h : List.Forall₂ R xs ys) (acc : γ) : xs.foldl step acc = ys.foldl step acc :=
  List.rel_foldl (P := Eq) (R := R) (fun {_ _} hacc {x y} hxy => hacc ▸ hstep _ x y hxy) rfl h

theorem foldl_pairs_congr {items : α → List β} {step : γ → α × β → γ}
    (hitems : ∀ x y, R x y → items x = items y)
    (hstep : ∀ acc x y item, R x y → step acc (x, item) = step acc (y, item)) (h : List.Forall₂ R xs ys)
    (acc : γ) :
    (xs.flatMap fun x => (items x).map (x, ·)).foldl step acc =
      (ys.flatMap fun y => (items y).map (y, ·)).foldl step acc := by
  simp only [List.foldl_flatMap, List.foldl_map]
  refine foldl_congr_of_forall₂ (fun acc x y hxy => ?_) h acc
  rw [hitems x y hxy]
  exact congrArg (List.foldl · acc (items y)) (funext fun acc => funext fun item => hstep acc x y item hxy)

end Lists

section Synthesis

variable (h : List.Forall₂ RoutedIngress.Alike as bs)
include h

theorem primaries_alike : List.Forall₂ RoutedIngress.Alike (primaries as) (primaries bs) :=
  List.rel_filter (fun {x y} hxy => by simp only [hxy.isCanary]) h

theorem canaries_alike : List.Forall₂ RoutedIngress.Alike (canaries as) (canaries bs) :=
  List.rel_filter (fun {x y} hxy => by simp only [hxy.isCanary]) h

theorem isEmpty_primaries_alike : (primaries as).isEmpty = (primaries bs).isEmpty := by
  rw [Bool.eq_iff_iff, List.isEmpty_iff_length_eq_zero, List.isEmpty_iff_length_eq_zero,
    (primaries_alike h).length_eq]

theorem allTargets_alike : allTargets as = allTargets bs := by
  refine List.forall₂_eq_eq_eq ▸ List.rel_flatMap (canaries_alike h) fun {x y} hxy => ?_
  rw [hxy.canaryTargets]
  simp [RoutedIngress.isLegacyCanary, hxy.policy]

theorem streamSnippets_alike : streamSnippets as = streamSnippets bs := by
  have hpolicies : as.map (·.policy.streamSnippet) = bs.map (·.policy.streamSnippet) :=
    List.forall₂_eq_eq_eq ▸ List.rel_map (fun {x y} hxy => by rw [hxy.policy]) h
  rw [streamSnippets, hpolicies, streamSnippets]

theorem admissible_alike (settings : Settings) :
    List.Forall₂ RoutedIngress.Alike (admissible settings as) (admissible settings bs) := by
  unfold admissible
  split
  · exact h
  · exact List.rel_map (fun {x y} hxy => hxy.withoutSnippets) h

namespace Store

theorem buildBackends_alike : store.buildBackends as fallback = store.buildBackends bs fallback :=
  foldl_pairs_congr (fun _ _ hxy => hxy.serviceRefs) (fun built _ _ service hxy => hxy.addReference built service)
    h _

theorem buildHosts_alike :
    store.buildHosts now as backends fallback = store.buildHosts now bs backends fallback := by
  have hopened : openedHosts store as backends fallback = openedHosts store bs backends fallback :=
    foldl_congr_of_forall₂ (fun _ _ _ hxy => hxy.openHosts) (primaries_alike h) _
  have hmerged : (ruleHosts as).foldl (mergeRule store now) (openedHosts store as backends fallback, []) =
      (ruleHosts bs).foldl (mergeRule store now) (openedHosts store bs backends fallback, []) := by
    rw [hopened, ruleHosts_eq, ruleHosts_eq]
    exact foldl_pairs_congr (fun _ _ hxy => hxy.hostnames) (fun merged _ _ host hxy => hxy.mergeRule merged host)
      (primaries_alike h) _
  exact congrArg (fun merged : Table VirtualHost × List Diagnostic =>
    (merged.1.map (·.dropHostAliases merged.1.keys), merged.2)) hmerged

variable (store now) (defaultService : Option String)

theorem built_alike : store.built now defaultService as = store.built now defaultService bs := by
  unfold built
  simp only [buildBackends_alike h, buildHosts_alike h]

theorem wired_alike : store.wired now defaultService as = store.wired now defaultService bs := by
  unfold wired Draft.addLocations allClaims
  rw [built_alike store now h]
  exact foldl_pairs_congr (fun _ _ hxy => hxy.pathClaims) (fun d _ _ claim hxy => hxy.wire d claim)
    (primaries_alike h) _

theorem arranged_alike : store.arranged now defaultService as = store.arranged now defaultService bs := by
  unfold arranged shadowed Draft.attachCanaries mergeCanaries pruneCanaries
  rw [wired_alike store now h, allTargets_alike h, isEmpty_primaries_alike h]

omit h in
theorem synthesize_alike_admissible
    (h : List.Forall₂ RoutedIngress.Alike (admissible store.settings as) (admissible store.settings bs)) :
    store.synthesize now defaultService as = store.synthesize now defaultService bs := by
  unfold synthesize configurationOf
  simp only [arranged_alike store now h, streamSnippets_alike h]

/-- Synthesis cannot tell alike ingresses apart. -/
theorem synthesize_alike : store.synthesize now defaultService as = store.synthesize now defaultService bs :=
  synthesize_alike_admissible store now defaultService (admissible_alike h store.settings)

end Store
end Synthesis
end IngressPlane
