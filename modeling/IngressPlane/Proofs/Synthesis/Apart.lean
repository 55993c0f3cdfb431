import IngressPlane.Proofs.Store.Keyed
import IngressPlane.Proofs.Synthesis.Arranged
import IngressPlane.Proofs.Synthesis.Timeless

/-! Ingresses that are apart: they have no host and no backend in common. Each stage folds over the ingresses in
order, but what a step reads and writes stands under the host and the backend that it is about. So the steps of
ingresses that are apart may change places, and with them the ingresses themselves (`synthesize_swap`); only what
is reported and the stream snippets then come in another order. -/
namespace IngressPlane

section Runs
variable {α ρ σ τ υ : Type} {R : σ → σ → Prop} {step : σ → α → σ}

theorem foldl_pass {P : σ → Prop} (hR : Equivalence R) (hstep : ∀ s s' x, R s s' → R (step s x) (step s' x))
    (hP : ∀ s x, P s → P (step s x)) {x : α} {ys : List α}
    (hcomm : ∀ s, P s → ∀ y ∈ ys, R (step (step s x) y) (step (step s y) x)) {s : σ} (hs : P s) :
    R (ys.foldl step (step s x)) (step (ys.foldl step s) x) := by
  induction ys generalizing s with
  | nil => exact hR.refl _
  | cons y ys ih =>
    have hfirst : R (ys.foldl step (step (step s x) y)) (ys.foldl step (step (step s y) x)) :=
      List.foldl_rel (hcomm s hs y List.mem_cons_self) fun y' _ s s' => hstep s s' y'
    exact hR.trans hfirst (ih (fun s hs y' hy' => hcomm s hs y' (List.mem_cons_of_mem y hy')) (hP s y hs))

/-- Runs of which each step may change places with each step of the other may change places. -/
theorem foldl_swap {P : σ → Prop} (hR : Equivalence R) (hstep : ∀ s s' x, R s s' → R (step s x) (step s' x))
    (hP : ∀ s x, P s → P (step s x)) {xs ys : List α}
    (hcomm : ∀ s, P s → ∀ x ∈ xs, ∀ y ∈ ys, R (step (step s x) y) (step (step s y) x)) {s : σ} (hs : P s) :
    R (ys.foldl step (xs.foldl step s)) (xs.foldl step (ys.foldl step s)) := by
  induction xs generalizing s with
  | nil => exact hR.refl _
  | cons x xs ih =>
    have hrest : R (ys.foldl step (xs.foldl step (step s x))) (xs.foldl step (ys.foldl step (step s x))) :=
      ih (fun s hs x' hx' => hcomm s hs x' (List.mem_cons_of_mem x hx')) (hP s x hs)
    have hfirst : R (ys.foldl step (step s x)) (step (ys.foldl step s) x) :=
      foldl_pass hR hstep hP (fun s hs y hy => hcomm s hs x List.mem_cons_self y hy) hs
    exact hR.trans hrest (List.foldl_rel hfirst fun x' _ s s' => hstep s s' x')

theorem foldl_flatMap_swap {P : σ → Prop} {items : ρ → List α} (hR : Equivalence R)
    (hstep : ∀ s s' x, R s s' → R (step s x) (step s' x)) (hP : ∀ s x, P s → P (step s x)) {a b : ρ}
    (hcomm : ∀ s, P s → ∀ x ∈ items a, ∀ y ∈ items b, R (step (step s x) y) (step (step s y) x)) {s s' : σ}
    (h : R s s') (hs : P s) (before after : List ρ) :
    R (((before ++ a :: b :: after).flatMap items).foldl step s)
      (((before ++ b :: a :: after).flatMap items).foldl step s') := by
  simp only [List.flatMap_append, List.flatMap_cons, List.foldl_append]
  have hbefore : P ((before.flatMap items).foldl step s) :=
    List.foldlRecOn (motive := P) _ step hs fun s hs x _ => hP s x hs
  have hrun {s s' : σ} (h : R s s') (xs : List α) : R (xs.foldl step s) (xs.foldl step s') :=
    List.foldl_rel h fun x _ s s' => hstep s s' x
  exact hrun (hR.trans (foldl_swap hR hstep hP hcomm hbefore) (hrun (hrun (hrun h _) _) _)) _

/-- Steps that neither write what the other reads nor mind the order of their writes may change places. -/
theorem effects_comm {P : σ → Prop} {f g : σ → σ} {read : σ → α} {read' : σ → ρ} {effect : α → Option τ}
    {effect' : ρ → Option υ} {write : σ → τ → σ} {write' : σ → υ → σ} (hR : ∀ s, R s s)
    (hf : ∀ s, P s → f s = (effect (read s)).elim s (write s))
    (hg : ∀ s, P s → g s = (effect' (read' s)).elim s (write' s)) (hPf : ∀ s, P s → P (f s))
    (hPg : ∀ s, P s → P (g s)) (hread : ∀ s w, read (write' s w) = read s)
    (hread' : ∀ s w, read' (write s w) = read' s)
    (hwrite : ∀ s w w', R (write' (write s w) w') (write (write' s w') w)) {s : σ} (hs : P s) :
    R (g (f s)) (f (g s)) := by
  rw [hg _ (hPf s hs), hf _ (hPg s hs), hf s hs, hg s hs]
  cases hown : effect (read s) with
  | none => cases hother : effect' (read' s) <;> simp [hread, hown, hother, hR]
  | some w =>
    cases hother : effect' (read' s) with
    | none => simp [hread', hown, hother, hR]
    | some w' => simpa [hread, hread', hown, hother] using hwrite s w w'

end Runs

def SameButOrder {σ τ : Type} (result : σ → τ) (notes : σ → List Diagnostic) (s s' : σ) : Prop :=
  result s = result s' ∧ (notes s).Perm (notes s')

theorem sameButOrder_equivalence {σ τ : Type} (result : σ → τ) (notes : σ → List Diagnostic) :
    Equivalence (SameButOrder result notes) where
  refl _ := ⟨rfl, .refl _⟩
  symm h := ⟨h.1.symm, h.2.symm⟩
  trans h h' := ⟨h.1.trans h'.1, h.2.trans h'.2⟩

section Local
variable {β : Type} {key key' : String}

def writeEntry (key : String) (m : Table β × List Diagnostic) (written : β × List Diagnostic) :
    Table β × List Diagnostic :=
  (m.1.insert key written.1, m.2 ++ written.2)

/-- A step that reads and writes one entry of a table, and reports something about it. -/
def IsLocal (key : String) (step : Table β × List Diagnostic → Table β × List Diagnostic) : Prop :=
  ∃ effect : Option β → Option (β × List Diagnostic), ∀ m,
    step m = (effect (m.1.get? key)).elim m (writeEntry key m)

variable {f g : Table β × List Diagnostic → Table β × List Diagnostic}
  {m m' : Table β × List Diagnostic}

theorem IsLocal.related (h : IsLocal key f) (hm : SameButOrder Prod.fst Prod.snd m m') :
    SameButOrder Prod.fst Prod.snd (f m) (f m') := by
  obtain ⟨effect, heffect⟩ := h
  rw [heffect, heffect, hm.1]
  cases effect (m'.1.get? key) with
  | none => exact hm
  | some written => exact ⟨congrArg (·.insert key written.1) hm.1, hm.2.append_right _⟩

theorem perm_append_swap (notes xs ys : List Diagnostic) :
    (notes ++ xs ++ ys).Perm (notes ++ ys ++ xs) := by
  rw [List.append_assoc, List.append_assoc]
  exact List.perm_append_comm.append_left notes

theorem IsLocal.comm (hf : IsLocal key f) (hg : IsLocal key' g) (hne : key ≠ key')
    (m : Table β × List Diagnostic) : SameButOrder Prod.fst Prod.snd (g (f m)) (f (g m)) := by
  obtain ⟨effect, heffect⟩ := hf
  obtain ⟨effect', heffect'⟩ := hg
  exact effects_comm (P := fun _ => True) (sameButOrder_equivalence _ _).refl (fun m _ => heffect m)
    (fun m _ => heffect' m) (fun _ _ => trivial) (fun _ _ => trivial)
    (fun _ _ => Table.get?_insert_of_ne _ _ hne.symm) (fun _ _ => Table.get?_insert_of_ne _ _ hne)
    (fun _ _ _ => ⟨Table.insert_comm _ hne _ _, perm_append_swap _ _ _⟩) trivial

end Local

variable {a b r : RoutedIngress} {before after : List RoutedIngress} {store : Store} {now : Instant}
  {backends : Table Backend} {fallback : Backend} {hosts hosts' : Table VirtualHost} {host : String}

namespace RoutedIngress

/-- The hosts that an ingress has a part in: those of its rules, or the catch-all host if it is after its root. -/
def usedHosts (r : RoutedIngress) : List String := if r.wantsRoot then [catchAllHost] else r.hostnames

/-- Ingresses that have no host and no backend in common. -/
structure Apart (a b : RoutedIngress) : Prop where
  hosts : ∀ host ∈ a.usedHosts, host ∉ b.usedHosts
  backends : ∀ service ∈ a.serviceRefs, ∀ service' ∈ b.serviceRefs, a.backendName service ≠ b.backendName service'

theorem mem_usedHosts (h : host ∈ r.hostnames) : host ∈ r.usedHosts := by
  unfold usedHosts
  split
  next hroot =>
    have hrules : r.rules = [] := by simpa using (Bool.and_eq_true_iff.1 hroot).1
    simp [hostnames, hrules] at h
  next => exact h

theorem Apart.counted (h : a.Apart b) (settings : Settings) :
    (a.counted settings).Apart (b.counted settings) := by
  unfold RoutedIngress.counted
  split
  · exact h
  · exact ⟨h.hosts, h.backends⟩

end RoutedIngress

section Stages

theorem isLocal_addReference (store : Store) (reference : RoutedIngress × ServiceRef) :
    IsLocal (referenceName reference) (Backend.addReference store · reference) := by
  refine ⟨fun found => if found.isSome then none
    else some (Backend.ofReference store reference.1 reference.2), fun m => ?_⟩
  unfold Backend.addReference Table.contains referenceName
  dsimp only
  split <;> rfl

theorem isLocal_mergeRule (store : Store) (now : Instant) (rule : RoutedIngress × String) :
    IsLocal rule.2 (mergeRule store now · rule) := by
  refine ⟨fun found => found.map fun v =>
    (((v.merge rule.1.policy).certify store now rule.1).1,
      v.mergeNotes rule.1 ++ ((v.merge rule.1.policy).certify store now rule.1).2), fun m => ?_⟩
  unfold mergeRule
  dsimp only
  cases m.1.get? rule.2 with
  | none => rfl
  | some v => simp only [Option.map_some, Option.elim_some, writeEntry, List.append_assoc]

theorem buildBackends_swap (h : a.Apart b) (store : Store) (fallback : Backend) :
    SameButOrder Prod.fst Prod.snd (store.buildBackends (before ++ a :: b :: after) fallback)
      (store.buildBackends (before ++ b :: a :: after) fallback) := by
  refine foldl_flatMap_swap (P := fun _ => True) (sameButOrder_equivalence _ _)
    (fun _ _ reference hm => (isLocal_addReference store reference).related hm) (fun _ _ _ => trivial)
    (fun m _ x hx y hy => ?_) ((sameButOrder_equivalence _ _).refl _) trivial before after
  obtain ⟨service, hservice, rfl⟩ := List.mem_map.1 hx
  obtain ⟨service', hservice', rfl⟩ := List.mem_map.1 hy
  exact (isLocal_addReference store (a, service)).comm (isLocal_addReference store (b, service'))
    (h.backends service hservice service' hservice') m

theorem get?_openHosts_unused (h : host ∉ r.usedHosts) :
    (openHosts backends fallback hosts r).get? host = hosts.get? host := by
  have hnone : host ∉ r.hostnames := fun hmem => h (RoutedIngress.mem_usedHosts hmem)
  unfold openHosts
  dsimp only
  rw [get?_openRules, if_neg hnone, Option.or_none]
  cases hown : r.ownFallback? backends with
  | none => rfl
  | some backend =>
    obtain ⟨service, hservice, _⟩ := Option.bind_eq_some_iff.1 hown
    by_cases hrules : r.rules.isEmpty
    · have hother : host ≠ catchAllHost := by simpa [RoutedIngress.usedHosts, RoutedIngress.wantsRoot, hrules, hservice] using h
      simp only [hrules, if_true]
      rw [Table.get?_modify, if_neg hother]
    · simp only [hrules, Bool.false_eq_true, if_false]

theorem get?_openHosts_congr (h : hosts.get? host = hosts'.get? host) :
    (openHosts backends fallback hosts r).get? host = (openHosts backends fallback hosts' r).get? host := by
  unfold openHosts
  dsimp only
  rw [get?_openRules, get?_openRules]
  congr 1
  split
  · split
    · rw [Table.get?_modify, Table.get?_modify, h]
    · exact h
  · exact h

theorem openHosts_comm (h : a.Apart b) (hosts : Table VirtualHost) :
    openHosts backends fallback (openHosts backends fallback hosts a) b =
      openHosts backends fallback (openHosts backends fallback hosts b) a := by
  refine Table.ext_get? fun host => ?_
  by_cases hused : host ∈ a.usedHosts
  · have hother : host ∉ b.usedHosts := h.hosts host hused
    rw [get?_openHosts_unused hother]
    exact get?_openHosts_congr (get?_openHosts_unused hother).symm
  · rw [get?_openHosts_unused hused]
    exact get?_openHosts_congr (get?_openHosts_unused hused)

theorem primaries_swap (ha : a.isCanary = false) (hb : b.isCanary = false) (before after : List RoutedIngress) :
    primaries (before ++ a :: b :: after) = primaries before ++ a :: b :: primaries after := by
  simp [primaries, ha, hb]

theorem canaries_swap (ha : a.isCanary = false) (hb : b.isCanary = false) (before after : List RoutedIngress) :
    canaries (before ++ a :: b :: after) = canaries before ++ canaries after := by
  simp [canaries, ha, hb]

variable (ha : a.isCanary = false) (hb : b.isCanary = false)
include ha hb

theorem openedHosts_swap (h : a.Apart b) : openedHosts store (before ++ a :: b :: after) backends fallback =
    openedHosts store (before ++ b :: a :: after) backends fallback := by
  unfold openedHosts
  rw [primaries_swap ha hb, primaries_swap hb ha, List.foldl_append, List.foldl_append, List.foldl_cons,
    List.foldl_cons, openHosts_comm h]
  rfl

theorem buildHosts_swap (h : a.Apart b) :
    SameButOrder Prod.fst Prod.snd (store.buildHosts now (before ++ a :: b :: after) backends fallback)
      (store.buildHosts now (before ++ b :: a :: after) backends fallback) := by
  have hmerged : SameButOrder Prod.fst Prod.snd
      ((ruleHosts (before ++ a :: b :: after)).foldl (mergeRule store now)
        (openedHosts store (before ++ a :: b :: after) backends fallback, []))
      ((ruleHosts (before ++ b :: a :: after)).foldl (mergeRule store now)
        (openedHosts store (before ++ b :: a :: after) backends fallback, [])) := by
    rw [openedHosts_swap ha hb h, ruleHosts, ruleHosts, primaries_swap ha hb, primaries_swap hb ha]
    refine foldl_flatMap_swap (P := fun _ => True) (sameButOrder_equivalence _ _)
      (fun _ _ rule hm => (isLocal_mergeRule store now rule).related hm) (fun _ _ _ => trivial)
      (fun m _ x hx y hy => ?_) ((sameButOrder_equivalence _ _).refl _) trivial _ _
    obtain ⟨rule, hrule, rfl⟩ := List.mem_map.1 hx
    obtain ⟨rule', hrule', rfl⟩ := List.mem_map.1 hy
    refine (isLocal_mergeRule store now (a, rule.hostname)).comm
      (isLocal_mergeRule store now (b, rule'.hostname)) (fun heq : rule.hostname = rule'.hostname => ?_) m
    have hused : rule.hostname ∈ a.usedHosts := RoutedIngress.mem_usedHosts (List.mem_map.2 ⟨rule, hrule, rfl⟩)
    exact h.hosts _ hused (RoutedIngress.mem_usedHosts (List.mem_map.2 ⟨rule', hrule', heq.symm⟩))
  exact ⟨congrArg (fun merged : Table VirtualHost => merged.map (VirtualHost.dropHostAliases merged.keys)) hmerged.1,
    hmerged.2⟩

end Stages

namespace Draft

variable {d d' : Draft} {claimed claimed' : RoutedIngress × PathClaim}

def writeClaim (claimed : RoutedIngress × PathClaim) (d : Draft)
    (written : VirtualHost × Backend × List Diagnostic) : Draft :=
  { backends := d.backends.insert (claimedName claimed) written.2.1
    hosts := d.hosts.insert claimed.2.host written.1
    notes := d.notes ++ written.2.2 }

/-- A claim on a host that is there reads and writes that host and its backend, and nothing else. -/
theorem wire_local (claimed : RoutedIngress × PathClaim) :
    ∃ effect : Option VirtualHost × Option Backend → Option (VirtualHost × Backend × List Diagnostic),
      ∀ d : Draft, d.hosts.contains claimed.2.host → d.wire claimed =
        (effect (d.hosts.get? claimed.2.host, d.backends.get? (claimedName claimed))).elim d (writeClaim claimed d) := by
  refine ⟨fun found => found.1.bind fun v => found.2.bind fun backend =>
    if backend.noServer then none
    else some ((v.claim claimed.1 claimed.2 backend).1,
      { backend with
        affinity := backend.affinity.adopt claimed.1.policy.affinity
          (claimed.2.host :: (v.claim claimed.1 claimed.2 backend).1.aliases) claimed.2.path },
      (v.claim claimed.1 claimed.2 backend).2), fun d hopen => ?_⟩
  unfold wire claimedName
  dsimp only
  rw [if_pos hopen]
  cases d.hosts.get? claimed.2.host with
  | none => rfl
  | some v =>
    cases d.backends.get? (claimed.1.backendName claimed.2.service) with
    | none => rfl
    | some backend => by_cases hserver : backend.noServer <;> simp [hserver, writeClaim, claimedName]

theorem wire_comm (hopen : d.hosts.contains claimed.2.host) (hopen' : d.hosts.contains claimed'.2.host)
    (hhost : claimed.2.host ≠ claimed'.2.host) (hname : claimedName claimed ≠ claimedName claimed') :
    SameButOrder unnoted notes ((d.wire claimed).wire claimed') ((d.wire claimed').wire claimed) := by
  obtain ⟨effect, heffect⟩ := wire_local claimed
  obtain ⟨effect', heffect'⟩ := wire_local claimed'
  have hstays (c : RoutedIngress × PathClaim) (d : Draft)
      (h : d.hosts.contains claimed.2.host ∧ d.hosts.contains claimed'.2.host) :
      (d.wire c).hosts.contains claimed.2.host ∧ (d.wire c).hosts.contains claimed'.2.host := by
    rwa [contains_wire, contains_wire]
  refine effects_comm (f := (wire · claimed)) (g := (wire · claimed')) (sameButOrder_equivalence _ _).refl
    (fun d hd => heffect d hd.1) (fun d hd => heffect' d hd.2) (hstays claimed) (hstays claimed')
    (fun d w => ?_) (fun d w => ?_) (fun d w w' => ?_) ⟨hopen, hopen'⟩
  · exact Prod.ext (Table.get?_insert_of_ne _ _ hhost.symm) (Table.get?_insert_of_ne _ _ hname.symm)
  · exact Prod.ext (Table.get?_insert_of_ne _ _ hhost) (Table.get?_insert_of_ne _ _ hname)
  · exact ⟨unnoted_congr (Table.insert_comm _ hname _ _) (Table.insert_comm _ hhost _ _), perm_append_swap _ _ _⟩

theorem wire_related (h : SameButOrder unnoted notes d d') (claimed : RoutedIngress × PathClaim) :
    SameButOrder unnoted notes (d.wire claimed) (d'.wire claimed) := by
  refine ⟨wire_unnoted h.1 claimed, ?_⟩
  unfold wire
  dsimp only
  rw [hosts_of_unnoted h.1, backends_of_unnoted h.1]
  split
  · split
    · exact h.2
    · exact h.2.append_right _
  · exact h.2

theorem attachCanaries_related {rs rs' : List RoutedIngress} (h : SameButOrder unnoted notes d d')
    (hempty : (primaries rs).isEmpty = (primaries rs').isEmpty) (hcanaries : canaries rs = canaries rs') :
    SameButOrder unnoted notes (d.attachCanaries rs) (d'.attachCanaries rs') := by
  have htargets : allTargets rs = allTargets rs' := by rw [allTargets, hcanaries, allTargets]
  unfold attachCanaries mergeCanaries pruneCanaries
  rw [hosts_of_unnoted h.1, backends_of_unnoted h.1, hempty, htargets]
  split
  · exact ⟨rfl, h.2⟩
  · exact ⟨rfl, h.2.append_right _⟩

end Draft

namespace Store

variable (now : Instant) (defaultService : Option String) (ha : a.isCanary = false) (hb : b.isCanary = false)
include ha hb

theorem built_swap (h : a.Apart b) :
    SameButOrder Draft.unnoted Draft.notes (store.built now defaultService (before ++ a :: b :: after))
      (store.built now defaultService (before ++ b :: a :: after)) := by
  have hbackends : SameButOrder Prod.fst Prod.snd
      (store.buildBackends (before ++ a :: b :: after) (store.fallback defaultService))
      (store.buildBackends (before ++ b :: a :: after) (store.fallback defaultService)) :=
    buildBackends_swap h store _
  have hhosts : SameButOrder Prod.fst Prod.snd
      (store.buildHosts now (before ++ a :: b :: after)
        (store.buildBackends (before ++ a :: b :: after) (store.fallback defaultService)).1
        (store.fallback defaultService))
      (store.buildHosts now (before ++ b :: a :: after)
        (store.buildBackends (before ++ b :: a :: after) (store.fallback defaultService)).1
        (store.fallback defaultService)) := by
    rw [hbackends.1]
    exact buildHosts_swap ha hb h
  exact ⟨Draft.unnoted_congr hbackends.1 hhosts.1, (hbackends.2.append_left _).append hhosts.2⟩

theorem wired_swap (h : a.Apart b) :
    SameButOrder Draft.unnoted Draft.notes (store.wired now defaultService (before ++ a :: b :: after))
      (store.wired now defaultService (before ++ b :: a :: after)) := by
  let opened := store.built now defaultService (before ++ a :: b :: after)
  let P (d : Draft) : Prop := ∀ host, host ∈ a.hostnames ∨ host ∈ b.hostnames → d.hosts.contains host
  have hopened : P opened := fun host hhost => by
    have hmem (r : RoutedIngress) (hr : r = a ∨ r = b) : r ∈ primaries (before ++ a :: b :: after) := by
      rw [primaries_swap ha hb]
      rcases hr with rfl | rfl <;> simp
    rw [contains_built_hosts, Bool.or_eq_true]
    rcases hhost with hhost | hhost
    · exact .inr (decide_eq_true ⟨a, hmem a (.inl rfl), hhost⟩)
    · exact .inr (decide_eq_true ⟨b, hmem b (.inr rfl), hhost⟩)
  unfold wired Draft.addLocations allClaims
  rw [primaries_swap ha hb, primaries_swap hb ha]
  refine foldl_flatMap_swap (P := P) (sameButOrder_equivalence _ _)
    (fun _ _ claimed hd => Draft.wire_related hd claimed)
    (fun d claimed hd host hhost => (Draft.contains_wire d claimed host).trans (hd host hhost))
    (fun d hd x hx y hy => ?_) (built_swap now defaultService ha hb h) hopened _ _
  obtain ⟨claim, hclaim, rfl⟩ := List.mem_map.1 hx
  obtain ⟨claim', hclaim', rfl⟩ := List.mem_map.1 hy
  have hhost : claim.host ∈ a.hostnames := RoutedIngress.host_mem_hostnames hclaim
  have hhost' : claim'.host ∈ b.hostnames := RoutedIngress.host_mem_hostnames hclaim'
  refine Draft.wire_comm (hd _ (.inl hhost)) (hd _ (.inr hhost')) (fun heq : claim.host = claim'.host => ?_)
    (h.backends _ (RoutedIngress.service_mem_serviceRefs hclaim) _ (RoutedIngress.service_mem_serviceRefs hclaim'))
  exact h.hosts _ (RoutedIngress.mem_usedHosts hhost) (RoutedIngress.mem_usedHosts (heq ▸ hhost'))

theorem arranged_swap (h : a.Apart b) :
    SameButOrder Draft.unnoted Draft.notes (store.arranged now defaultService (before ++ a :: b :: after))
      (store.arranged now defaultService (before ++ b :: a :: after)) := by
  have hshadowed : SameButOrder Draft.unnoted Draft.notes
      (store.shadowed now defaultService (before ++ a :: b :: after))
      (store.shadowed now defaultService (before ++ b :: a :: after)) := by
    refine Draft.attachCanaries_related (wired_swap now defaultService ha hb h) ?_ ?_
    · rw [primaries_swap ha hb, primaries_swap hb ha]
      cases primaries before <;> rfl
    · rw [canaries_swap ha hb, canaries_swap hb ha]
  have hnotes (d : Draft) : (d.addStandIns store).markPassthrough.arrange.notes = d.notes := rfl
  unfold arranged
  refine ⟨Draft.arrange_unnoted (Draft.addStandIns_unnoted hshadowed.1 store), ?_⟩
  rw [hnotes, hnotes]
  exact hshadowed.2

end Store

theorem streamSnippets_swap (before after : List RoutedIngress) :
    (streamSnippets (before ++ a :: b :: after)).Perm (streamSnippets (before ++ b :: a :: after)) := by
  unfold streamSnippets
  exact (((List.Perm.swap b a after).append_left before).map _).filter _

/-- Neighbours that are no canaries and have no host and no backend in common may change places. The names, the
backends, the hosts and the entries that pass TLS through stay the same, and so does everything else but the order
of the stream snippets and of what is reported. -/
theorem synthesize_swap (store : Store) (now : Instant) (defaultService : Option String)
    (before after : List RoutedIngress) (ha : a.isCanary = false) (hb : b.isCanary = false) (h : a.Apart b) :
    let synthesized := store.synthesize now defaultService (before ++ a :: b :: after)
    let swapped := store.synthesize now defaultService (before ++ b :: a :: after)
    synthesized.names = swapped.names ∧
      synthesized.configuration.backends = swapped.configuration.backends ∧
      synthesized.configuration.hosts = swapped.configuration.hosts ∧
      synthesized.configuration.passthroughs = swapped.configuration.passthroughs ∧
      { synthesized.configuration with streamSnippets := [] } =
        { swapped.configuration with streamSnippets := [] } ∧
      synthesized.configuration.streamSnippets.Perm swapped.configuration.streamSnippets ∧
      synthesized.diagnostics.Perm swapped.diagnostics := by
  intro synthesized swapped
  let count := RoutedIngress.counted store.settings
  have hcounted (x y : RoutedIngress) : admissible store.settings (before ++ x :: y :: after) =
      before.map count ++ count x :: count y :: after.map count := by simp [admissible_eq, count]
  have harranged : SameButOrder Draft.unnoted Draft.notes
      (store.arranged now defaultService (admissible store.settings (before ++ a :: b :: after)))
      (store.arranged now defaultService (admissible store.settings (before ++ b :: a :: after))) := by
    rw [hcounted, hcounted]
    exact Store.arranged_swap now defaultService (RoutedIngress.counted_isCanary _ a ▸ ha)
      (RoutedIngress.counted_isCanary _ b ▸ hb) (h.counted store.settings)
  have hhosts := Draft.hosts_of_unnoted harranged.1
  have hbackends := Draft.backends_of_unnoted harranged.1
  have hsnippets : (streamSnippets (admissible store.settings (before ++ a :: b :: after))).Perm
      (streamSnippets (admissible store.settings (before ++ b :: a :: after))) := by
    rw [hcounted, hcounted]
    exact streamSnippets_swap _ _
  unfold synthesized swapped Store.synthesize Store.configurationOf
  dsimp only
  rw [hhosts, hbackends]
  exact ⟨rfl, rfl, rfl, rfl, rfl, hsnippets, harranged.2⟩

/-- Two ingresses behind a canary, of which one has the hostname of the other as an alias: of the configuration only
the stream snippets change places. -/
theorem synthesize_swap_of_two :
    let store := Store.withOptions {}
    let shadow : RoutedIngress := ⟨rootIngress "ns" "shadow" "a.com" "api", { canary := { enabled := true } }⟩
    let site : RoutedIngress :=
      ⟨rootIngress "ns" "site" "a.com" "web", { aliases := ["b.com", "c.com"], streamSnippet := "# site" }⟩
    let shop : RoutedIngress := ⟨rootIngress "ns" "shop" "b.com" "shop", { streamSnippet := "# shop" }⟩
    let synthesized := store.synthesize ⟨0, 0⟩ none [shadow, site, shop]
    let swapped := store.synthesize ⟨0, 0⟩ none [shadow, shop, site]
    (site.isCanary = false ∧ shop.isCanary = false ∧ site.Apart shop) ∧
      synthesized.names = ["_", "a.com", "b.com", "c.com"] ∧ synthesized.names = swapped.names ∧
      synthesized.configuration.hosts = swapped.configuration.hosts ∧
      synthesized.configuration.streamSnippets = ["# site", "# shop"] ∧
      swapped.configuration.streamSnippets = ["# shop", "# site"] ∧
      synthesized.diagnostics.Perm swapped.diagnostics := by
  intro store shadow site shop synthesized swapped
  have hsite : site.isCanary = false := rfl
  have hshop : shop.isCanary = false := rfl
  have happart : site.Apart shop := by
    constructor
    · decide +kernel
    · decide +kernel
  have hserved : synthesized.names = ["_", "a.com", "b.com", "c.com"] := by decide +kernel
  have hsnippets : synthesized.configuration.streamSnippets = ["# site", "# shop"] := by decide +kernel
  have hswapped : swapped.configuration.streamSnippets = ["# shop", "# site"] := by decide +kernel
  obtain ⟨hnames, _, hhosts, _, _, _, hnotes⟩ :=
    synthesize_swap store ⟨0, 0⟩ none [shadow] [] hsite hshop happart
  refine ⟨⟨hsite, hshop, happart⟩, hserved, ?_, ?_, hsnippets, hswapped, ?_⟩
  · exact hnames
  · exact hhosts
  · exact hnotes

end IngressPlane
