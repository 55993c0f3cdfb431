import IngressPlane.Proofs.Results
import IngressPlane.Proofs.Synthesis.Arranged

/-! The certificate of a host is the default one, or one that an ingress with a rule for the host provides and
that is valid for it. An ingress that is asked for a certificate and provides none is reported
(`synthesize_certificates`). -/
namespace IngressPlane

variable {store : Store} {now : Instant} {defaultService : Option String} {backends : Table Backend}
  {fallback : Backend} {resources : List RoutedIngress} {hosts : Table VirtualHost} {r : RoutedIngress}
  {host : String} {k : KeyPair} {merged : Table VirtualHost × List Diagnostic}
  {rule : RoutedIngress × String} {rules : List (RoutedIngress × String)}

/-- Whether a certificate is valid for a host by its alternative names, or else by its common name too. -/
def Certificate.IsValidFor (c : Certificate) (host : String) : Prop :=
  c.verify host false = .ok () ∨ c.verify host true = .ok ()

theorem Certificate.isValidFor_of_accepts {c : Certificate} (h : c.accepts host = .ok ()) :
    c.IsValidFor host := by
  unfold accepts at h
  split at h
  next hnames => exact .inl hnames
  next => exact .inr h

def RoutedIngress.hasTls (r : RoutedIngress) : Bool := !r.ingress.spec.tlsList.isEmpty

theorem RoutedIngress.counted_hasTls (settings : Settings) (r : RoutedIngress) :
    (r.counted settings).hasTls = r.hasTls := by
  rw [hasTls, counted_ingress, hasTls]

namespace Store

/-- That an ingress provides a key pair for a host: it names the secret of its namespace that the key pair is
from, and the certificate is there and valid for the host. -/
def Provides (store : Store) (r : RoutedIngress) (host : String) (k : KeyPair) : Prop :=
  ∃ entry ∈ r.ingress.spec.tlsList, ∃ secret, entry.secretName = some secret ∧
    store.keyPairs.get? (r.scope ++ "/" ++ secret) = some k ∧
    ∃ c, k.certificate = some c ∧ c.IsValidFor host

theorem exists_entry_of_secretNameFor {scope secret : String} {tls : List TlsEntry}
    (h : store.secretNameFor host scope tls = some secret) : ∃ entry ∈ tls, entry.secretName = some secret := by
  unfold secretNameFor at h
  split at h
  next entry hentry => exact ⟨entry, List.mem_of_find?_eq_some hentry, h⟩
  next =>
    have hmem := (List.mem_filter.1 (List.mem_of_find?_eq_some h)).1
    exact List.mem_filterMap.1 hmem

theorem provides_of_provided (h : store.provided host r.ingress = .ok k) : store.Provides r host k := by
  unfold provided at h
  dsimp only at h
  split at h
  · cases h
  next secret hsecret =>
    obtain ⟨entry, hentry, hname⟩ := exists_entry_of_secretNameFor hsecret
    obtain ⟨pair, hpair, h⟩ := bind_eq_ok_iff.1 h
    split at h
    · cases h
    next certificate hcertificate =>
      obtain ⟨_, haccepts, h⟩ := bind_eq_ok_iff.1 h
      cases h
      exact ⟨entry, hentry, secret, hname, keyPair_eq_ok.1 (mapError_eq_ok_iff.1 hpair), certificate,
        hcertificate, Certificate.isValidFor_of_accepts (mapError_eq_ok_iff.1 haccepts)⟩

/-- What is found for a host is what the ingress provides, or else the default. -/
theorem certificateFor_cases (store : Store) (now : Instant) (host : String) (r : RoutedIngress) :
    (∃ k, store.provided host r.ingress = .ok k ∧ (store.certificateFor now host r.ingress).1 = some k) ∨
      ∃ reason, store.provided host r.ingress = .error reason ∧
        store.certificateFor now host r.ingress =
          (store.defaultKeyPair, [.defaultCertificate host reason]) := by
  unfold certificateFor
  cases store.provided host r.ingress with
  | ok k => exact .inl ⟨k, rfl, rfl⟩
  | error reason => exact .inr ⟨reason, rfl, rfl⟩

def offered (store : Store) (now : Instant) (host : String) (rules : List (RoutedIngress × String)) :
    Option KeyPair :=
  (rules.filter fun rule => rule.2 = host && rule.1.hasTls).findSome? fun rule =>
    (store.certificateFor now host rule.1.ingress).1

/-- The certificate of a host after these rules: the catch-all host has the default one from the start. -/
def settled (store : Store) (now : Instant) (host : String) (rules : List (RoutedIngress × String)) :
    Option KeyPair :=
  (if host = catchAllHost then store.defaultKeyPair else none).or (store.offered now host rules)

theorem offered_append {after : List (RoutedIngress × String)} : store.offered now host (rules ++ after) =
    (store.offered now host rules).or (store.offered now host after) := by
  unfold offered
  rw [List.filter_append, List.findSome?_append]

theorem offered_cons : store.offered now host (rule :: rules) =
    (if rule.2 = host && rule.1.hasTls then (store.certificateFor now host rule.1.ingress).1 else none).or
      (store.offered now host rules) := by
  unfold offered
  rw [List.filter_cons]
  split
  · rw [List.findSome?_cons]
    cases (store.certificateFor now host rule.1.ingress).1 <;> rfl
  · rfl

end Store

def keyPairAt? (hosts : Table VirtualHost) (host : String) : Option KeyPair :=
  (hosts.get? host).bind (·.keyPair)

theorem keyPairAt?_openedHosts (host : String) : keyPairAt? (openedHosts store resources backends fallback) host =
    if host = catchAllHost then store.defaultKeyPair else none := by
  unfold keyPairAt?
  cases hget : (openedHosts store resources backends fallback).get? host with
  | none =>
    have hother : host ≠ catchAllHost := by
      rintro rfl
      have hthere : (openedHosts store resources backends fallback).contains catchAllHost := by
        rw [contains_openedHosts, decide_eq_true rfl, Bool.true_or]
      rw [Table.contains, hget] at hthere
      cases hthere
    rw [if_neg hother, Option.bind_none]
  | some v =>
    rw [Option.bind_some, ← v.shell_keyPair]
    cases openedHosts_opensAs hget with
    | catchAll hshell => rw [hshell, if_pos rfl]; rfl
    | byRule _ hother hshell => rw [hshell, if_neg hother]; rfl

section Merging

namespace VirtualHost

variable {v : VirtualHost}

theorem certify_keyPair : (v.certify store now r).1.keyPair =
    v.keyPair.or (if r.hasTls then (store.certificateFor now v.hostname r.ingress).1 else none) := by
  unfold certify RoutedIngress.hasTls
  cases hpair : v.keyPair with
  | some k => simp [hpair]
  | none => cases hempty : r.ingress.spec.tlsList.isEmpty <;> simp [hpair]

theorem certify_notes (hnone : v.keyPair = none) (htls : r.hasTls) :
    (v.certify store now r).2 = (store.certificateFor now v.hostname r.ingress).2 := by
  rw [RoutedIngress.hasTls, Bool.not_eq_true'] at htls
  unfold certify
  simp [hnone, htls]

end VirtualHost

theorem keyPairAt?_mergeRule (hnamed : merged.1.Named VirtualHost.hostname) (hthere : merged.1.contains rule.2) :
    keyPairAt? (mergeRule store now merged rule).1 host = (keyPairAt? merged.1 host).or
      (if rule.2 = host && rule.1.hasTls then (store.certificateFor now host rule.1.ingress).1 else none) := by
  obtain ⟨v, hv⟩ := Table.contains_iff.1 hthere
  have hname : v.hostname = rule.2 := hnamed rule.2 v hv
  have hmerged : (v.merge rule.1.policy).keyPair = v.keyPair := rfl
  have hmergedName : (v.merge rule.1.policy).hostname = rule.2 := hname
  unfold mergeRule
  simp only [hv]
  unfold keyPairAt?
  rw [Table.get?_insert]
  by_cases hhost : rule.2 = host
  · subst hhost
    rw [if_pos rfl, hv, Option.bind_some, Option.bind_some, VirtualHost.certify_keyPair, hmerged, hmergedName]
    simp
  · rw [if_neg hhost]
    simp [hhost]

theorem contains_mergeRule (name : String) :
    (mergeRule store now merged rule).1.contains name = merged.1.contains name := by
  rw [← isSome_locationsAt?, locationsAt?_mergeRule, isSome_locationsAt?]

theorem contains_foldl_mergeRule (name : String) :
    (rules.foldl (mergeRule store now) merged).1.contains name = merged.1.contains name := by
  rw [← isSome_locationsAt?, locationsAt?_foldl_mergeRule, isSome_locationsAt?]

/-- A host keeps the certificate that it has, and else gets the first one that is offered. -/
theorem keyPairAt?_foldl_mergeRule (hnamed : merged.1.Named VirtualHost.hostname)
    (hthere : ∀ rule ∈ rules, merged.1.contains rule.2) :
    keyPairAt? (rules.foldl (mergeRule store now) merged).1 host =
      (keyPairAt? merged.1 host).or (store.offered now host rules) := by
  induction rules generalizing merged with
  | nil => simp [Store.offered]
  | cons rule rules ih =>
    have hnext : ∀ rule' ∈ rules, (mergeRule store now merged rule).1.contains rule'.2 := fun rule' hrule => by
      rw [contains_mergeRule]
      exact hthere rule' (List.mem_cons_of_mem rule hrule)
    rw [List.foldl_cons, ih (mergeRule_named hnamed rule) hnext,
      keyPairAt?_mergeRule hnamed (hthere rule List.mem_cons_self), Store.offered_cons, Option.or_assoc]

theorem notes_prefix_foldl_mergeRule (store : Store) (now : Instant) (rules : List (RoutedIngress × String))
    (merged : Table VirtualHost × List Diagnostic) :
    merged.2 <+: (rules.foldl (mergeRule store now) merged).2 :=
  List.foldlRecOn (motive := fun merged' : Table VirtualHost × List Diagnostic => merged.2 <+: merged'.2)
    rules (mergeRule store now) (List.prefix_refl _) fun merged' h rule _ => by
      unfold mergeRule
      split
      · exact h
      · dsimp only
        rw [List.append_assoc]
        exact h.trans (List.prefix_append _ _)

theorem notes_mergeRule (hnamed : merged.1.Named VirtualHost.hostname) (hthere : merged.1.contains rule.2)
    (hnone : keyPairAt? merged.1 rule.2 = none) (htls : rule.1.hasTls) {note : Diagnostic}
    (hnote : note ∈ (store.certificateFor now rule.2 rule.1.ingress).2) :
    note ∈ (mergeRule store now merged rule).2 := by
  obtain ⟨v, hv⟩ := Table.contains_iff.1 hthere
  have hname : (v.merge rule.1.policy).hostname = rule.2 := hnamed rule.2 v hv
  have hfree : (v.merge rule.1.policy).keyPair = none := by
    rwa [keyPairAt?, hv, Option.bind_some] at hnone
  unfold mergeRule
  simp only [hv]
  rw [VirtualHost.certify_notes hfree htls, hname]
  exact List.mem_append_right _ hnote

end Merging

section Building

theorem contains_ruleHosts (hrule : rule ∈ ruleHosts resources) :
    (openedHosts store resources backends fallback).contains rule.2 := by
  rw [contains_openedHosts, Bool.or_eq_true_iff]
  exact .inr (decide_eq_true ⟨rule.1, mem_ruleHosts.1 hrule⟩)

theorem keyPairAt?_foldl_opened (hrules : ∀ rule ∈ rules, rule ∈ ruleHosts resources) :
    keyPairAt? (rules.foldl (mergeRule store now) (openedHosts store resources backends fallback, [])).1 host =
      store.settled now host rules := by
  rw [keyPairAt?_foldl_mergeRule openedHosts_named fun rule hrule => contains_ruleHosts (hrules rule hrule),
    keyPairAt?_openedHosts]
  rfl

theorem keyPairAt?_buildHosts (store : Store) (now : Instant) (resources : List RoutedIngress)
    (backends : Table Backend) (fallback : Backend) (host : String) :
    keyPairAt? (store.buildHosts now resources backends fallback).1 host =
      store.settled now host (ruleHosts resources) := by
  have hmerged : keyPairAt? ((ruleHosts resources).foldl (mergeRule store now)
      (openedHosts store resources backends fallback, [])).1 host = store.settled now host (ruleHosts resources) :=
    keyPairAt?_foldl_opened fun _ hrule => hrule
  rw [← hmerged]
  unfold keyPairAt? Store.buildHosts
  rw [Table.get?_map, Option.bind_map]
  rfl

theorem mem_notes_buildHosts {before after : List (RoutedIngress × String)}
    (hsplit : ruleHosts resources = before ++ (r, host) :: after)
    (hfree : store.settled now host before = none) (htls : r.hasTls) {note : Diagnostic}
    (hnote : note ∈ (store.certificateFor now host r.ingress).2) :
    note ∈ (store.buildHosts now resources backends fallback).2 := by
  have hbefore : ∀ rule ∈ before, rule ∈ ruleHosts resources := fun rule hrule => by
    rw [hsplit]
    exact List.mem_append_left _ hrule
  let merged := before.foldl (mergeRule store now) (openedHosts store resources backends fallback, [])
  have hnamed : merged.1.Named VirtualHost.hostname := foldl_mergeRule_named before openedHosts_named
  have hthere : merged.1.contains host := by
    have hrule : (r, host) ∈ ruleHosts resources := by simp [hsplit]
    rw [contains_foldl_mergeRule]
    exact contains_ruleHosts hrule
  have hnone : keyPairAt? merged.1 host = none := (keyPairAt?_foldl_opened hbefore).trans hfree
  have hnote' : note ∈ (mergeRule store now merged (r, host)).2 := notes_mergeRule hnamed hthere hnone htls hnote
  have hnotes : (store.buildHosts now resources backends fallback).2 =
      ((ruleHosts resources).foldl (mergeRule store now) (openedHosts store resources backends fallback, [])).2 :=
    rfl
  rw [hnotes, hsplit, List.foldl_append, List.foldl_cons]
  exact (notes_prefix_foldl_mergeRule store now after _).mem hnote'

end Building

namespace Store

theorem keyPairAt?_arranged (store : Store) (now : Instant) (defaultService : Option String)
    (resources : List RoutedIngress) (host : String) :
    keyPairAt? (store.arranged now defaultService resources).hosts host =
      store.settled now host (ruleHosts resources) := by
  have hshell (hosts : Table VirtualHost) :
      keyPairAt? (hosts.map VirtualHost.shell) host = keyPairAt? hosts host := by
    unfold keyPairAt?
    rw [Table.get?_map, Option.bind_map]
    rfl
  rw [← hshell, arranged_shell, hshell]
  exact keyPairAt?_buildHosts store now resources _ _ host

theorem ruleHosts_admissible (settings : Settings) (resources : List RoutedIngress) :
    ruleHosts (admissible settings resources) =
      (ruleHosts resources).map fun rule => (rule.1.counted settings, rule.2) := by
  simp only [ruleHosts_eq, primaries_admissible, List.flatMap_map, List.map_flatMap, List.map_map,
    Function.comp_def, RoutedIngress.counted_hostnames]

theorem settled_counted (settings : Settings) (rules : List (RoutedIngress × String)) :
    store.settled now host (rules.map fun rule => (rule.1.counted settings, rule.2)) =
      store.settled now host rules := by
  refine congrArg (Option.or _) ?_
  induction rules with
  | nil => rfl
  | cons rule rules ih =>
    rw [List.map_cons, offered_cons, offered_cons, ih, RoutedIngress.counted_hasTls,
      RoutedIngress.counted_ingress]

theorem settled_cases (h : store.settled now host rules = some k) :
    store.defaultKeyPair = some k ∨ ∃ rule ∈ rules, rule.2 = host ∧ store.Provides rule.1 host k := by
  rcases Option.or_eq_some_iff.1 h with hstart | ⟨_, hoffered⟩
  · split at hstart
    · exact .inl hstart
    · cases hstart
  · obtain ⟨rule, hrule, hfound⟩ := List.exists_of_findSome?_eq_some hoffered
    obtain ⟨hrule, hhost⟩ := List.mem_filter.1 hrule
    rcases store.certificateFor_cases now host rule.1 with ⟨k', hprovided, hk'⟩ | ⟨reason, _, hnotes⟩
    · rw [hk'] at hfound
      cases hfound
      exact .inr ⟨rule, hrule, by simpa using (Bool.and_eq_true_iff.1 hhost).1, provides_of_provided hprovided⟩
    · rw [hnotes] at hfound
      exact .inl hfound

/-- Whether an ingress is asked for a certificate for a host: it has a TLS section, and at one of its rules for
the host none of the rules before has settled the certificate. -/
def Asks (store : Store) (now : Instant) (resources : List RoutedIngress) (r : RoutedIngress)
    (host : String) : Prop :=
  r.hasTls ∧ ∃ before after, ruleHosts resources = before ++ (r, host) :: after ∧
    store.settled now host before = none

theorem Asks.settles (h : store.Asks now resources r host) (hprovided : store.provided host r.ingress = .ok k) :
    store.settled now host (ruleHosts resources) = some k := by
  obtain ⟨htls, before, after, hsplit, hfree⟩ := h
  have hfound : (store.certificateFor now host r.ingress).1 = some k := by
    unfold certificateFor
    rw [hprovided]
  unfold settled at hfree ⊢
  obtain ⟨hstart, hbefore⟩ := Option.or_eq_none_iff.1 hfree
  rw [hstart, Option.none_or, hsplit, offered_append, hbefore, Option.none_or, offered_cons]
  simp [htls, hfound]

/-- Each host has the certificate that its rules settle, which is the default one or one that an ingress with a
rule for the host provides. Whatever ingress is asked for one either provides it, and then the host has it, or is
reported. -/
theorem synthesize_certificates (store : Store) (now : Instant) (defaultService : Option String)
    (resources : List RoutedIngress) :
    let s := store.synthesize now defaultService resources
    (∀ v ∈ s.configuration.hosts, v.keyPair = store.settled now v.hostname (ruleHosts resources) ∧
      ∀ k, v.keyPair = some k → store.defaultKeyPair = some k ∨
        ∃ r ∈ primaries resources, v.hostname ∈ r.hostnames ∧ store.Provides r v.hostname k) ∧
    ∀ r host, store.Asks now resources r host →
      (∃ k, store.provided host r.ingress = .ok k ∧ store.Provides r host k ∧
        ∃ v ∈ s.configuration.hosts, v.hostname = host ∧ v.keyPair = some k) ∨
      ∃ reason, store.provided host r.ingress = .error reason ∧
        .defaultCertificate host reason ∈ s.diagnostics := by
  intro s
  have hsettled (host : String) : keyPairAt? (store.arranged now defaultService
      (admissible store.settings resources)).hosts host = store.settled now host (ruleHosts resources) := by
    rw [keyPairAt?_arranged, ruleHosts_admissible, settled_counted]
  refine ⟨fun v hv => ?_, fun r host hasks => ?_⟩
  · have hpair : v.keyPair = store.settled now v.hostname (ruleHosts resources) := by
      rw [← hsettled, keyPairAt?, arranged_hosts_named.get?_of_mem hv, Option.bind_some]
    refine ⟨hpair, fun k hk => ?_⟩
    rcases settled_cases (hpair.symm.trans hk) with hdefault | ⟨rule, hrule, hhost, hprovides⟩
    · exact .inl hdefault
    · obtain ⟨hr, hname⟩ := mem_ruleHosts.1 hrule
      exact .inr ⟨rule.1, hr, hhost ▸ hname, hprovides⟩
  · cases hprovided : store.provided host r.ingress with
    | ok k =>
      obtain ⟨v, hv, hk⟩ := Option.bind_eq_some_iff.1 ((hsettled host).trans (hasks.settles hprovided))
      exact .inl ⟨k, rfl, provides_of_provided hprovided, v, Table.mem_values.2 ⟨host, hv⟩,
        arranged_hosts_named host v hv, hk⟩
    | error reason =>
      obtain ⟨htls, before, after, hsplit, hfree⟩ := hasks
      have hreported : s.diagnostics =
          (store.arranged now defaultService (admissible store.settings resources)).notes := rfl
      refine .inr ⟨reason, rfl, ?_⟩
      rw [hreported]
      refine (store.notes_built_prefix now defaultService _).mem ?_
      have hsplit' : ruleHosts (admissible store.settings resources) =
          before.map (fun rule => (rule.1.counted store.settings, rule.2)) ++
            (r.counted store.settings, host) ::
              after.map fun rule => (rule.1.counted store.settings, rule.2) := by
        rw [ruleHosts_admissible, hsplit, List.map_append, List.map_cons]
      refine List.mem_append_right _ (mem_notes_buildHosts hsplit' ?_ ?_ ?_)
      · rw [settled_counted]
        exact hfree
      · rwa [RoutedIngress.counted_hasTls]
      · rw [RoutedIngress.counted_ingress, certificateFor, hprovided]
        exact List.mem_singleton_self _

end Store
end IngressPlane
