import IngressPlane.Proofs.Synthesis.HostCertificates

/-! The fields of the built hosts. Ingresses set them for the hosts of their rules, and each field has what the
first of them has that sets it at all (`HostField.eq_firstSet`); what is set otherwise later is reported. Here a
host's ingresses are listed once each, in order, whatever the number of their rules for it (`built_fields`). -/
namespace IngressPlane

variable {store : Store} {now : Instant} {defaultService : Option String} {backends : Table Backend}
  {fallback : Backend} {resources : List RoutedIngress} {host : String}
  {merged : Table VirtualHost × List Diagnostic} {rules : List (RoutedIngress × String)}

section FirstSet
variable {α β : Type} [DecidableEq α] {unset : α}

def firstSet (unset : α) (values : List α) : α := (values.find? (· ≠ unset)).getD unset

theorem firstSet_cons (unset value : α) (values : List α) :
    firstSet unset (value :: values) = if value = unset then firstSet unset values else value := by
  unfold firstSet
  by_cases hset : value = unset <;> simp [hset]

theorem firstSet_singleton (unset value : α) : firstSet unset [value] = value := by
  by_cases hset : value = unset <;> simp [firstSet, hset]

theorem firstSet_pair (unset slot value : α) (values : List α) :
    firstSet unset (firstSet unset [slot, value] :: values) = firstSet unset (slot :: value :: values) := by
  by_cases hslot : slot = unset
  · by_cases hvalue : value = unset <;> simp [firstSet, hslot, hvalue]
  · simp [firstSet, hslot]

theorem firstSet_map (unset : α) (f : β → α) (xs : List β) :
    firstSet unset (xs.map f) = (xs.findSome? fun x => if f x = unset then none else some (f x)).getD unset := by
  induction xs with
  | nil => rfl
  | cons x xs ih =>
    rw [List.map_cons, firstSet_cons, ih, List.findSome?_cons]
    by_cases hset : f x = unset <;> simp [hset]

theorem firstSet_of_unset {values : List α} (h : ∀ value ∈ values, value = unset) : firstSet unset values = unset := by
  have hnone : values.find? (· ≠ unset) = none := List.find?_eq_none.2 fun value hvalue => by simp [h value hvalue]
  rw [firstSet, hnone, Option.getD_none]

theorem firstSet_append (unset : α) (xs ys : List α) :
    firstSet unset (xs ++ ys) = if firstSet unset xs = unset then firstSet unset ys else firstSet unset xs := by
  induction xs with
  | nil => exact (if_pos rfl).symm
  | cons x xs ih =>
    rw [List.cons_append, firstSet_cons, firstSet_cons, ih]
    by_cases hset : x = unset <;> simp [hset]

/-- A value is kept out exactly if it is set, and it is not what all values come to. -/
theorem conflicts_eq (unset slot value : α) (values : List α) :
    conflicts unset slot value = decide (value ≠ unset ∧ value ≠ firstSet unset (slot :: value :: values)) := by
  unfold conflicts
  by_cases hslot : slot = unset
  · by_cases hvalue : value = unset <;> simp [firstSet, hslot, hvalue]
  · have hfirst : firstSet unset (slot :: value :: values) = slot := by simp [firstSet, hslot]
    simp [hfirst, hslot, @eq_comm _ slot value]

end FirstSet

def primariesFor (resources : List RoutedIngress) (host : String) : List RoutedIngress :=
  (primaries resources).filter (host ∈ ·.hostnames)

theorem findSome?_parts {α β γ : Type} (parts : α → List β) (p : α → β → Bool) (f : α → Option γ) (xs : List α) :
    ((xs.flatMap fun x => (parts x).map (x, ·)).filter fun part => p part.1 part.2).findSome? (fun part => f part.1) =
      (xs.filter fun x => (parts x).any (p x)).findSome? f := by
  induction xs with
  | nil => rfl
  | cons x xs ih =>
    have hone (ys : List β) : ((ys.map (x, ·)).filter fun part => p part.1 part.2).findSome? (fun part => f part.1) =
        if ys.any (p x) then f x else none := by
      induction ys with
      | nil => rfl
      | cons y ys ihys =>
        rw [List.map_cons, List.filter_cons, List.any_cons]
        cases hy : p x y
        · simp [ihys]
        · cases hf : f x <;> simp [hf, ihys]
    rw [List.flatMap_cons, List.filter_append, List.findSome?_append, hone, ih, List.filter_cons]
    cases (parts x).any (p x)
    · rfl
    · cases hf : f x <;> simp [hf]

theorem findSome?_ruleHosts {β : Type} (f : RoutedIngress → Option β) :
    ((ruleHosts resources).filter (·.2 = host)).findSome? (fun rule => f rule.1) =
      (primariesFor resources host).findSome? f := by
  rw [ruleHosts_eq, findSome?_parts RoutedIngress.hostnames (fun _ name => decide (name = host)) f, primariesFor]
  simp only [List.any_eq, decide_eq_true_eq, exists_eq_right]

/-- A field of hosts that ingresses set, and the first one for good. -/
structure HostField (α : Type) [DecidableEq α] where
  unset : α
  ofHost : VirtualHost → α
  ofPolicy : Policy → α
  merge : ∀ v policy, ofHost (v.merge policy) = firstSet unset [ofHost v, ofPolicy policy]
  certify : ∀ v keyPair, ofHost { v with keyPair } = ofHost v
  shell : ∀ v, ofHost v.shell = ofHost v
  /-- The catch-all host is opened without it. -/
  catchAll : ∀ store fallback, ofHost (.catchAll store fallback) = unset
  /-- Another host is opened without it, or with that of the ingress that opens it. -/
  ofRule : ∀ r host target, ofHost (.ofRule r host target) = unset ∨
    ofHost (.ofRule r host target) = ofPolicy r.policy

namespace HostField

theorem merge_text (slot value : String) : firstText slot value = firstSet "" [slot, value] := by
  unfold firstText
  by_cases hslot : slot = "" <;> by_cases hvalue : value = "" <;> simp [firstSet, hslot, hvalue]

def aliases : HostField (List String) where
  unset := []
  ofHost := (·.aliases)
  ofPolicy := (·.aliases)
  merge v policy := by
    simp only [VirtualHost.merge]
    by_cases hslot : v.aliases = [] <;> by_cases hvalue : policy.aliases = [] <;> simp [firstSet, hslot, hvalue]
  certify _ _ := rfl
  shell _ := rfl
  catchAll _ _ := rfl
  ofRule _ _ _ := .inl rfl

def snippet : HostField String where
  unset := ""
  ofHost := (·.snippet)
  ofPolicy := (·.serverSnippet)
  merge _ _ := merge_text _ _
  certify _ _ := rfl
  shell _ := rfl
  catchAll _ _ := rfl
  ofRule _ _ _ := .inl rfl

def ciphers : HostField String where
  unset := ""
  ofHost := (·.ciphers)
  ofPolicy := (·.ciphers.ciphers)
  merge _ _ := merge_text _ _
  certify _ _ := rfl
  shell _ := rfl
  catchAll _ _ := rfl
  ofRule _ _ _ := .inr rfl

def preferServerCiphers : HostField String where
  unset := ""
  ofHost := (·.preferServerCiphers)
  ofPolicy := (·.ciphers.preferServerCiphers)
  merge _ _ := merge_text _ _
  certify _ _ := rfl
  shell _ := rfl
  catchAll _ _ := rfl
  ofRule _ _ _ := .inr rfl

variable {α : Type} [DecidableEq α] (F : HostField α)

def settled (resources : List RoutedIngress) (host : String) : α :=
  firstSet F.unset ((primariesFor resources host).map fun r => F.ofPolicy r.policy)

theorem ofHost_certify (v : VirtualHost) (r : RoutedIngress) :
    F.ofHost (v.certify store now r).1 = F.ofHost v := by
  unfold VirtualHost.certify
  split
  · rfl
  · exact F.certify v _

theorem map_mergeRule (merged : Table VirtualHost × List Diagnostic) (rule : RoutedIngress × String)
    (host : String) :
    ((mergeRule store now merged rule).1.get? host).map F.ofHost =
      ((merged.1.get? host).map F.ofHost).map fun slot =>
        if rule.2 = host then firstSet F.unset [slot, F.ofPolicy rule.1.policy] else slot := by
  unfold mergeRule
  split
  next hnone =>
    by_cases hhost : rule.2 = host
    · rw [← hhost, hnone]
      rfl
    · simp [hhost, Function.comp_def]
  next v hv =>
    rw [Table.get?_insert]
    by_cases hhost : rule.2 = host
    · subst hhost
      simp [hv, F.ofHost_certify, F.merge]
    · simp [hhost, Function.comp_def]

theorem map_foldl_mergeRule (rules : List (RoutedIngress × String))
    (merged : Table VirtualHost × List Diagnostic) (host : String) :
    ((rules.foldl (mergeRule store now) merged).1.get? host).map F.ofHost =
      ((merged.1.get? host).map F.ofHost).map fun slot =>
        firstSet F.unset (slot :: (rules.filter (·.2 = host)).map fun rule => F.ofPolicy rule.1.policy) := by
  induction rules generalizing merged with
  | nil => simp [firstSet_singleton, Function.comp_def]
  | cons rule rules ih =>
    rw [List.foldl_cons, ih, F.map_mergeRule, Option.map_map, List.filter_cons]
    refine congrArg (Option.map · _) (funext fun slot => ?_)
    by_cases hhost : rule.2 = host
    · simp [hhost, firstSet_pair]
    · simp [hhost]

theorem firstSet_ruleHosts :
    firstSet F.unset (((ruleHosts resources).filter (·.2 = host)).map fun rule => F.ofPolicy rule.1.policy) =
      F.settled resources host := by
  rw [settled, firstSet_map, firstSet_map]
  exact congrArg (·.getD F.unset)
    (findSome?_ruleHosts fun r => if F.ofPolicy r.policy = F.unset then none else some (F.ofPolicy r.policy))

theorem ofHost_opened {v : VirtualHost} (hv : (openedHosts store resources backends fallback).get? host = some v) :
    F.ofHost v = F.unset ∨ F.ofHost v = F.settled resources host := by
  rw [← F.shell v]
  cases openedHosts_opensAs hv with
  | catchAll hshell => exact .inl (by rw [hshell, F.shell, F.catchAll])
  | @byRule r _ target _ hfirst _ hshell =>
    rw [hshell, F.shell]
    rcases F.ofRule r host target with hunset | hown
    · exact .inl hunset
    · rw [hown]
      obtain ⟨rest, hrest⟩ := List.head?_eq_some_iff.1 ((List.head?_filter ..).trans hfirst)
      rw [settled, primariesFor, hrest, List.map_cons, firstSet_cons]
      by_cases hset : F.ofPolicy r.policy = F.unset
      · exact .inl hset
      · exact .inr (if_neg hset).symm

/-- Once all rules are merged a host has what the first of its ingresses has that sets the field. -/
theorem eq_settled {v : VirtualHost} (hv : ((ruleHosts resources).foldl (mergeRule store now)
      (openedHosts store resources backends fallback, [])).1.get? host = some v) :
    F.ofHost v = F.settled resources host := by
  have hmerged := congrArg (Option.map F.ofHost) hv
  rw [F.map_foldl_mergeRule, Option.map_map, Option.map_some] at hmerged
  obtain ⟨opened, hopened, hfield⟩ := Option.map_eq_some_iff.1 hmerged
  rw [← hfield, Function.comp_apply, firstSet_cons, F.firstSet_ruleHosts]
  rcases F.ofHost_opened hopened with hunset | hown
  · exact if_pos hunset
  · rw [hown, ite_self]

theorem conflicts_iff {rule : RoutedIngress × String} {v v' : VirtualHost} (hv : merged.1.get? rule.2 = some v)
    (hv' : ((rule :: rules).foldl (mergeRule store now) merged).1.get? rule.2 = some v') :
    conflicts F.unset (F.ofHost v) (F.ofPolicy rule.1.policy) = true ↔
      F.ofPolicy rule.1.policy ≠ F.unset ∧ F.ofPolicy rule.1.policy ≠ F.ofHost v' := by
  have hmerged := congrArg (Option.map F.ofHost) hv'
  have hself : decide (rule.2 = rule.2) = true := decide_eq_true rfl
  rw [F.map_foldl_mergeRule, hv, Option.map_some, Option.map_some, Option.map_some, List.filter_cons,
    if_pos hself, List.map_cons, Option.some.injEq] at hmerged
  rw [← hmerged, conflicts_eq, decide_eq_true_iff]

end HostField

/-- Whether something is said about what an ingress sets for a host in vain. -/
def Diagnostic.isMergeConflict : Diagnostic → Bool
  | .aliasConflict _ _ => true
  | .snippetConflict _ _ => true
  | _ => false

def conflictNotes (aliases : String → List String) (snippet : String → String)
    (rule : RoutedIngress × String) : List Diagnostic :=
  (if rule.1.policy.aliases ≠ [] ∧ rule.1.policy.aliases ≠ aliases rule.2 then
    [.aliasConflict rule.2 rule.1.key] else []) ++
  if rule.1.policy.serverSnippet ≠ "" ∧ rule.1.policy.serverSnippet ≠ snippet rule.2 then
    [.snippetConflict rule.2 rule.1.key] else []

section Notes

theorem filter_certify_notes (v : VirtualHost) (r : RoutedIngress) :
    (v.certify store now r).2.filter (·.isMergeConflict) = [] := by
  have hexpiry (k : KeyPair) (host : String) :
      (k.expiryNote? host now).toList.filter (·.isMergeConflict) = [] := by
    unfold KeyPair.expiryNote?
    split
    · rfl
    · split <;> rfl
  unfold VirtualHost.certify Store.certificateFor
  split
  · rfl
  · cases store.provided v.hostname r.ingress with
    | error reason => rfl
    | ok k => exact hexpiry k v.hostname

/-- What rules set in vain is what differs from what the hosts have in the end. -/
theorem filter_notes_foldl_mergeRule {aliases : String → List String} {snippet : String → String}
    (hnamed : merged.1.Named VirtualHost.hostname) (hthere : ∀ rule ∈ rules, merged.1.contains rule.2)
    (hfinal : ∀ host v, (rules.foldl (mergeRule store now) merged).1.get? host = some v →
      v.aliases = aliases host ∧ v.snippet = snippet host) :
    (rules.foldl (mergeRule store now) merged).2.filter (·.isMergeConflict) =
      merged.2.filter (·.isMergeConflict) ++ rules.flatMap (conflictNotes aliases snippet) := by
  induction rules generalizing merged with
  | nil => simp
  | cons rule rules ih =>
    have hrule : merged.1.contains rule.2 := hthere rule List.mem_cons_self
    obtain ⟨v, hv⟩ := Table.contains_iff.1 hrule
    obtain ⟨v', hv'⟩ := Table.contains_iff.1 ((contains_foldl_mergeRule rule.2).trans hrule)
    obtain ⟨haliases, hsnippet⟩ := hfinal rule.2 v' hv'
    have hnotes : v.mergeNotes rule.1 = conflictNotes aliases snippet rule := by
      have hname : v.hostname = rule.2 := hnamed rule.2 v hv
      unfold VirtualHost.mergeNotes conflictNotes
      rw [← haliases, ← hsnippet, hname]
      congr 1
      · exact ite_congr (propext (HostField.aliases.conflicts_iff hv hv')) (fun _ => rfl) fun _ => rfl
      · exact ite_congr (propext (HostField.snippet.conflicts_iff hv hv')) (fun _ => rfl) fun _ => rfl
    have hall : (conflictNotes aliases snippet rule).filter (·.isMergeConflict) =
        conflictNotes aliases snippet rule := by
      rw [conflictNotes, List.filter_append]
      congr 1 <;> split <;> rfl
    have hfirst : (mergeRule store now merged rule).2.filter (·.isMergeConflict) =
        merged.2.filter (·.isMergeConflict) ++ conflictNotes aliases snippet rule := by
      unfold mergeRule
      simp only [hv]
      rw [List.filter_append, List.filter_append, filter_certify_notes, List.append_nil, hnotes, hall]
    have hnext : ∀ rule' ∈ rules, (mergeRule store now merged rule).1.contains rule'.2 := fun rule' hmem => by
      rw [contains_mergeRule]
      exact hthere rule' (List.mem_cons_of_mem rule hmem)
    rw [List.foldl_cons, ih (mergeRule_named hnamed rule) hnext hfinal, hfirst, List.flatMap_cons,
      List.append_assoc]

theorem filter_ofReference_notes (r : RoutedIngress) (reference : ServiceRef) :
    (Backend.ofReference store r reference).2.filter (·.isMergeConflict) = [] := by
  have hcluster (key : String) : (Backend.clusterEndpoints store r.policy key reference).2.filter
      (·.isMergeConflict) = [] := by
    unfold Backend.clusterEndpoints
    split
    · split <;> rfl
    · rfl
  have hpod (name key : String) (port : Option PortKey) :
      (Backend.podEndpoints store name key port).2.filter (·.isMergeConflict) = [] := by
    unfold Backend.podEndpoints
    split
    · rfl
    · split <;> rfl
  unfold Backend.ofReference
  simp only [List.filter_append, hcluster, List.nil_append]
  split
  · rw [hpod]
    split <;> rfl
  · split <;> rfl

theorem filter_buildBackends_notes (store : Store) (resources : List RoutedIngress) (fallback : Backend) :
    (store.buildBackends resources fallback).2.filter (·.isMergeConflict) = [] :=
  List.foldlRecOn (motive := fun built : Table Backend × List Diagnostic =>
    built.2.filter (·.isMergeConflict) = []) _ _ rfl fun built h reference _ => by
      unfold Backend.addReference
      dsimp only
      split
      · exact h
      · rw [List.filter_append, h, filter_ofReference_notes, List.append_nil]

theorem filter_defaultBackend_notes (store : Store) (defaultService : Option String) :
    (store.defaultBackend defaultService).2.filter (·.isMergeConflict) = [] := by
  unfold Store.defaultBackend
  split
  · rfl
  · split <;> rfl

end Notes

theorem passthrough_openedHosts {v : VirtualHost}
    (hv : (openedHosts store resources backends fallback).get? host = some v) (hother : host ≠ catchAllHost) :
    ∃ r, (primariesFor resources host).head? = some r ∧ v.sslPassthrough = r.policy.sslPassthrough := by
  have hshell : v.sslPassthrough = v.shell.sslPassthrough := rfl
  cases openedHosts_opensAs hv with
  | catchAll _ => exact (hother rfl).elim
  | @byRule r _ target _ hfirst _ hsame =>
    refine ⟨r, (List.head?_filter ..).trans hfirst, ?_⟩
    rw [hshell, hsame]
    rfl

namespace Store

theorem offered_ruleHosts : store.offered now host (ruleHosts resources) =
    ((primariesFor resources host).filter (·.hasTls)).findSome? fun r =>
      (store.certificateFor now host r.ingress).1 := by
  have hfilter {β : Type} (p : β → Bool) (f : β → Option KeyPair) (xs : List β) :
      (xs.filter p).findSome? f = xs.findSome? fun x => if p x then f x else none := by
    induction xs with
    | nil => rfl
    | cons x xs ih => cases hp : p x <;> simp [List.findSome?_cons, hp, ih]
  have hswap : (ruleHosts resources).filter (fun rule => rule.2 = host && rule.1.hasTls) =
      ((ruleHosts resources).filter (·.2 = host)).filter (·.1.hasTls) := by
    rw [List.filter_filter]
    exact List.filter_congr fun _ _ => Bool.and_comm _ _
  rw [offered, hswap, hfilter fun rule : RoutedIngress × String => rule.1.hasTls, hfilter RoutedIngress.hasTls]
  exact findSome?_ruleHosts fun r => if r.hasTls then (store.certificateFor now host r.ingress).1 else none

end Store

/-- Each field of a built host is what the ingresses with rules for it come to, in order: the first text that is
set; the first list of aliases that is set, in ascending order and without hostnames; the first answer about
TLS, and the first certificate that is found. The rules with other aliases or snippets are reported, and no
others. -/
theorem built_fields (store : Store) (now : Instant) (defaultService : Option String)
    (resources : List RoutedIngress) :
    let built := store.built now defaultService resources
    (∀ v ∈ built.hosts.values,
      v.snippet = HostField.snippet.settled resources v.hostname ∧
      v.ciphers = HostField.ciphers.settled resources v.hostname ∧
      v.preferServerCiphers = HostField.preferServerCiphers.settled resources v.hostname ∧
      v.aliases.Pairwise (· < ·) ∧
      (∀ name, name ∈ v.aliases ↔
        name ∈ HostField.aliases.settled resources v.hostname ∧ name ∉ built.hosts.values.map (·.hostname)) ∧
      (v.hostname ≠ catchAllHost → ∃ r, (primariesFor resources v.hostname).head? = some r ∧
        v.sslPassthrough = r.policy.sslPassthrough) ∧
      v.keyPair = (if v.hostname = catchAllHost then store.defaultKeyPair else none).or
        (((primariesFor resources v.hostname).filter (·.hasTls)).findSome? fun r =>
          (store.certificateFor now v.hostname r.ingress).1)) ∧
    built.notes.filter (·.isMergeConflict) = (ruleHosts resources).flatMap
      (conflictNotes (HostField.aliases.settled resources) (HostField.snippet.settled resources)) := by
  intro built
  let fallback := (store.defaultBackend defaultService).1
  let backends := (store.buildBackends resources fallback).1
  let opened := openedHosts store resources backends fallback
  let merged := (ruleHosts resources).foldl (mergeRule store now) (opened, [])
  have hhosts : built.hosts = merged.1.map (·.dropHostAliases merged.1.keys) := rfl
  have hnamed : built.hosts.Named VirtualHost.hostname := buildHosts_named store now resources backends fallback
  have hkeys : built.hosts.values.map (·.hostname) = merged.1.keys := by
    rw [hnamed.map_values, hhosts, Table.keys_map]
  refine ⟨fun v hv => ?_, ?_⟩
  · have hget : built.hosts.get? v.hostname = some v := hnamed.get?_of_mem hv
    have hpair : v.keyPair = store.settled now v.hostname (ruleHosts resources) := by
      have hsettled : keyPairAt? built.hosts v.hostname = store.settled now v.hostname (ruleHosts resources) :=
        keyPairAt?_buildHosts store now resources backends fallback v.hostname
      rwa [keyPairAt?, hget, Option.bind_some] at hsettled
    rw [hhosts, Table.get?_map] at hget
    -- only the aliases change when hostnames are dropped from them
    obtain ⟨m, hm, rfl⟩ := Option.map_eq_some_iff.1 hget
    have haliases : m.aliases = HostField.aliases.settled resources m.hostname := HostField.aliases.eq_settled hm
    refine ⟨HostField.snippet.eq_settled hm, HostField.ciphers.eq_settled hm,
      HostField.preferServerCiphers.eq_settled hm, pairwise_ascending _, fun name => ?_, fun hother => ?_, ?_⟩
    · have hkept : (m.dropHostAliases merged.1.keys).aliases =
          ascending (m.aliases.filter fun name => !merged.1.keys.contains name) := rfl
      have hname : (m.dropHostAliases merged.1.keys).hostname = m.hostname := rfl
      rw [hkept, hname, mem_ascending, List.mem_filter, haliases, hkeys]
      simp
    · have hopened : ((merged.1.get? m.hostname).map (·.sslPassthrough)) =
          (opened.get? m.hostname).map (·.sslPassthrough) :=
        map_foldl_mergeRule (fun _ _ => rfl) (fun _ _ => rfl) now _ _ _
      have hm' : merged.1.get? m.hostname = some m := hm
      rw [hm', Option.map_some] at hopened
      obtain ⟨o, ho, hsame⟩ := Option.map_eq_some_iff.1 hopened.symm
      obtain ⟨r, hr, hpass⟩ := passthrough_openedHosts ho hother
      exact ⟨r, hr, hsame.symm.trans hpass⟩
    · rw [hpair, Store.settled, Store.offered_ruleHosts]
  · have hnotes : built.notes = (store.defaultBackend defaultService).2 ++
        (store.buildBackends resources fallback).2 ++ merged.2 := rfl
    rw [hnotes, List.filter_append, List.filter_append, filter_defaultBackend_notes,
      filter_buildBackends_notes, List.append_nil, List.nil_append]
    exact filter_notes_foldl_mergeRule openedHosts_named (fun _ => contains_ruleHosts) fun host v hv =>
      ⟨HostField.aliases.eq_settled hv, HostField.snippet.eq_settled hv⟩

end IngressPlane
