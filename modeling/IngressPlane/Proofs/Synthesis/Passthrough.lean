import IngressPlane.Proofs.Synthesis.ExpandedKeys
import IngressPlane.Proofs.Synthesis.References
import Mathlib.Data.List.Forall2

/-! Hosts whose connections are passed through. Each host is opened with a prefix root, which stays in front of all
that is claimed later, of an exact root in particular. Arranging a host moves no root past another one, so the entry
of the host leads to where its prefix root leads, while the backends behind both roots are marked
(`synthesize_passthroughs`). -/
namespace IngressPlane

variable {l : Location} {ls : List Location} {v : VirtualHost}
  {hosts : Table VirtualHost} {store : Store} {now : Instant} {defaultService : Option String}
  {resources : List RoutedIngress} {host name : String}

def exactRootKey : String × PathType := (rootPath, .exact)

theorem forall₂_filterMap {α β : Type} {R : α → β → Prop} {f : α → Option β} {xs : List α}
    (h : ∀ x ∈ xs, ∃ y, f x = some y ∧ R x y) : List.Forall₂ R xs (xs.filterMap f) := by
  induction xs with
  | nil => exact .nil
  | cons x xs ih =>
    obtain ⟨y, hy, hR⟩ := h x List.mem_cons_self
    rw [List.filterMap_cons_some hy]
    exact .cons hR (ih fun x' hx' => h x' (List.mem_cons_of_mem x hx'))

section Sorting

theorem Location.sortsBefore_trans (a b c : Location) (hab : a.sortsBefore b) (hbc : b.sortsBefore c) :
    a.sortsBefore c := by
  unfold Location.sortsBefore at *
  split at hab <;> split at hbc <;> split <;> simp only [decide_eq_true_eq] at *
  · exact String.le_trans hbc hab
  all_goals omega

theorem Location.sortsBefore_total (a b : Location) : a.sortsBefore b || b.sortsBefore a := by
  unfold Location.sortsBefore
  by_cases hsize : a.path.utf8ByteSize = b.path.utf8ByteSize
  · simpa [hsize] using String.le_total b.path a.path
  · simp only [hsize, Ne.symm hsize, if_false, Bool.or_eq_true, decide_eq_true_eq]
    omega

theorem filter_sortLocations (path : String) (ls : List Location) :
    (sortLocations ls).filter (·.path = path) = ls.filter (·.path = path) := by
  have hsame : (ls.filter (·.path = path)).Pairwise fun a b => a.sortsBefore b := by
    refine List.pairwise_of_forall_mem_list fun a ha b hb => ?_
    have hpath : a.path = b.path := by
      rw [of_decide_eq_true (List.mem_filter.1 ha).2, of_decide_eq_true (List.mem_filter.1 hb).2]
    simp [Location.sortsBefore, hpath]
  have hsub : (ls.filter (·.path = path)).Sublist (sortLocations ls) :=
    List.sublist_mergeSort Location.sortsBefore_trans Location.sortsBefore_total hsame List.filter_sublist
  have hkept := hsub.filter (·.path = path)
  rw [List.filter_filter, List.filter_congr (q := (·.path = path)) (by simp)] at hkept
  refine (hkept.eq_of_length ?_).symm
  exact ((List.mergeSort_perm ls Location.sortsBefore).filter _).length_eq.symm

end Sorting

section Roots

theorem slashEnded_ne_rootPath {path : String} (hempty : path ≠ "") (hroot : path ≠ rootPath) :
    slashEnded path ≠ rootPath := by
  by_cases hended : slashEnded path = path
  · rwa [hended]
  · rw [slashEnded_of_ne hended]
    exact fun heq => hempty ((String.append_left_inj "/").1 heq)

theorem Location.roots_expand (keys : List (String × PathType)) (hempty : l.path ≠ "") :
    (l.expand keys).filter (·.path = rootPath) = [l].filter (·.path = rootPath) := by
  by_cases hroot : l.path = rootPath
  · rw [expand_eq, if_pos hroot]
  · have hnone : (l.expand keys).filter (·.path = rootPath) = [] := by
      refine List.filter_eq_nil_iff.2 fun l' hl' heq => ?_
      have hpath : l'.path = rootPath := of_decide_eq_true heq
      rcases expand_cases hl' with ⟨rfl, _⟩ | rfl | ⟨_, rfl | ⟨rfl, _⟩⟩
      · exact hroot hpath
      · exact hroot hpath
      · exact slashEnded_ne_rootPath hempty hroot hpath
      · exact hroot hpath
    simp [hnone, hroot]

/-- The keys of a host's locations: the prefix root is in front and no key comes twice. No path is empty, and
what is neither exact nor a prefix is routed as a prefix. -/
structure RootedKeys (keys : List (String × PathType)) : Prop where
  front : ∃ rest, keys = rootKey :: rest
  nodup : keys.Nodup
  routed : ∀ key ∈ keys, key.1 ≠ "" ∧ key.2 ≠ .implementationSpecific

theorem PathRule.location_ne_empty (p : PathRule) : p.location ≠ "" := by
  unfold PathRule.location
  split
  · split
    · decide
    next h => exact h
  · decide

theorem PathType.effective_ne (s : String) : effective s ≠ .implementationSpecific := by
  unfold effective
  split <;> simp

theorem RoutedIngress.routed_claims {r : RoutedIngress} {claim : PathClaim} (h : claim ∈ r.pathClaims) :
    claim.path ≠ "" ∧ claim.pathType ≠ .implementationSpecific := by
  obtain ⟨rule, _, hclaim⟩ := List.mem_flatMap.1 h
  obtain ⟨p, _, hp⟩ := List.mem_filterMap.1 hclaim
  obtain ⟨service, _, rfl⟩ := Option.map_eq_some_iff.1 hp
  exact ⟨p.location_ne_empty, PathType.effective_ne p.pathType⟩

theorem RootedKeys.placeClaim {backends : Table Backend} {claimed : RoutedIngress × PathClaim}
    (h : RootedKeys (ls.map Location.key))
    (hclaim : claimed.2.path ≠ "" ∧ claimed.2.pathType ≠ .implementationSpecific) :
    RootedKeys ((placeClaim backends ls claimed).map Location.key) := by
  refine ⟨?_, nodup_keys_placeClaim h.nodup, fun key hkey => ?_⟩
  · obtain ⟨rest, hrest⟩ := h.front
    obtain ⟨added, hadded⟩ := keys_prefix_placeClaim backends ls claimed
    exact ⟨rest ++ added, by rw [← hadded, hrest, List.cons_append]⟩
  · rcases keys_placeClaim backends ls claimed with hsame | ⟨_, hadded⟩
    · exact h.routed key (hsame ▸ hkey)
    · rw [hadded, List.mem_append, List.mem_singleton] at hkey
      rcases hkey with hkey | rfl
      · exact h.routed key hkey
      · exact hclaim

namespace Store

theorem rootedKeys_wired (h : locationsAt? (store.wired now defaultService resources).hosts host = some ls) :
    RootedKeys (ls.map Location.key) := by
  rw [locationsAt?_wired] at h
  obtain ⟨old, hold, rfl⟩ := Option.map_eq_some_iff.1 h
  obtain ⟨root, rfl, hroot⟩ := openedHosts_root hold
  refine List.foldlRecOn (motive := fun ls : List Location => RootedKeys (ls.map Location.key)) _ _
    ⟨⟨[], congrArg (fun key => [key]) hroot⟩, List.nodup_singleton _, ?_⟩ fun _ hls claimed hclaimed => ?_
  · simp only [List.map_cons, List.map_nil, List.mem_singleton, hroot, forall_eq]
    decide
  · obtain ⟨_, hclaim⟩ := mem_allClaims.1 (List.mem_filter.1 hclaimed).1
    exact hls.placeClaim (RoutedIngress.routed_claims hclaim)

theorem rootedKeys_unexpanded
    (h : locationsAt? (store.unexpanded now defaultService resources).hosts host = some ls) :
    RootedKeys (ls.map Location.key) := by
  obtain ⟨old, hold, hkeys⟩ := keys_unexpanded h
  rw [hkeys]
  exact rootedKeys_wired hold

end Store

theorem RootedKeys.roots_arrange (h : RootedKeys (v.locations.map Location.key)) : v.arrange.roots = v.roots := by
  have hrun (keys : List (String × PathType)) (ls : List Location) (hempty : ∀ l ∈ ls, l.path ≠ "") :
      (ls.flatMap (Location.expand keys)).filter (·.path = rootPath) = ls.filter (·.path = rootPath) := by
    induction ls with
    | nil => rfl
    | cons l ls ih =>
      rw [List.flatMap_cons, List.filter_append, Location.roots_expand keys (hempty l List.mem_cons_self),
        ih fun l hl => hempty l (List.mem_cons_of_mem _ hl), ← List.filter_append, List.singleton_append]
  exact (filter_sortLocations rootPath _).trans
    (hrun _ _ fun l hl => (h.routed l.key (List.mem_map_of_mem hl)).1)

/-- What the roots of a host are: this one, and perhaps an exact one behind it. -/
structure VirtualHost.Rooted (v : VirtualHost) (root : Location) : Prop where
  first : v.roots.head? = some root
  key : root.key = rootKey
  mem_iff : ∀ l, l ∈ v.roots ↔ l = root ∨ l ∈ v.locations ∧ l.key = exactRootKey

theorem VirtualHost.mem_roots {v : VirtualHost} : l ∈ v.roots ↔ l ∈ v.locations ∧ l.path = rootPath := by
  rw [roots, List.mem_filter, decide_eq_true_eq]

namespace VirtualHost.Rooted

variable {root : Location}

theorem mem (h : v.Rooted root) : root ∈ v.locations := (mem_roots.1 (List.mem_of_head? h.first)).1

theorem passthrough?_eq (h : v.Rooted root) :
    v.passthrough? = some ⟨root.service, root.backend, v.hostname, root.port⟩ := by
  rw [VirtualHost.passthrough?, h.first, Option.map_some]

end VirtualHost.Rooted

theorem RootedKeys.eq_exactRootKey {rest : List (String × PathType)} {key : String × PathType}
    (h : RootedKeys (rootKey :: rest)) (hkey : key ∈ rest) (hpath : key.1 = rootPath) : key = exactRootKey := by
  obtain ⟨path, pathType⟩ := key
  obtain rfl : path = rootPath := hpath
  cases pathType with
  | exact => rfl
  | under => exact ((List.nodup_cons.1 h.nodup).1 hkey).elim
  | implementationSpecific => exact ((h.routed _ (List.mem_cons_of_mem _ hkey)).2 rfl).elim

theorem RootedKeys.rooted (h : RootedKeys (v.locations.map Location.key)) : ∃ root, v.arrange.Rooted root := by
  obtain ⟨rest, hrest⟩ := h.front
  obtain ⟨root, others, hlocations, hroot, rfl⟩ := List.map_eq_cons_iff.1 hrest
  have hpath : root.path = rootPath := congrArg Prod.fst hroot
  have hroots : v.arrange.roots = root :: others.filter (·.path = rootPath) := by
    rw [h.roots_arrange, VirtualHost.roots, hlocations, List.filter_cons, if_pos (decide_eq_true hpath)]
  refine ⟨root, by rw [hroots, List.head?_cons], hroot, fun l => ⟨fun hl => ?_, fun hl => ?_⟩⟩
  · rcases List.mem_cons.1 (hroots ▸ hl) with rfl | hother
    · exact .inl rfl
    · obtain ⟨hmem, hlpath⟩ := List.mem_filter.1 hother
      exact .inr ⟨(VirtualHost.mem_roots.1 hl).1,
        (hrest ▸ h).eq_exactRootKey (List.mem_map_of_mem hmem) (of_decide_eq_true hlpath)⟩
  · rcases hl with rfl | ⟨hmem, hkey⟩
    · rw [hroots]
      exact List.mem_cons_self
    · exact VirtualHost.mem_roots.2 ⟨hmem, congrArg Prod.fst hkey⟩

end Roots

section Marks

theorem mem_passthroughBackendNames : name ∈ passthroughBackendNames hosts ↔
    name ≠ defaultBackendName ∧ ∃ v ∈ hosts.values, v.sslPassthrough ∧ ∃ l ∈ v.roots, l.backend = name := by
  rw [passthroughBackendNames, List.mem_filter, decide_eq_true_eq, and_comm]
  refine and_congr_right fun _ => ⟨fun h => ?_, ?_⟩
  · obtain ⟨l, hl, rfl⟩ := List.mem_map.1 h
    obtain ⟨v, hv, hroot⟩ := List.mem_flatMap.1 hl
    obtain ⟨hmem, hpass⟩ := List.mem_filter.1 hv
    exact ⟨v, hmem, hpass, l, hroot, rfl⟩
  · rintro ⟨v, hmem, hpass, l, hroot, rfl⟩
    exact List.mem_map_of_mem (List.mem_flatMap.2 ⟨v, List.mem_filter.2 ⟨hmem, hpass⟩, hroot⟩)

namespace Store

variable {k : String} {b : Backend}

theorem sslPassthrough_addStandIns
    (hb : ((store.shadowed now defaultService resources).addStandIns store).backends.get? k = some b) :
    b.sslPassthrough = false := by
  obtain ⟨k', b', hb', hcopy⟩ := (Draft.addStandIns_backends (Draft.attachCanaries_named
    (store.wired_backends_named now defaultService resources))).2 k b hb
  obtain ⟨wired, hwired, hhull⟩ := Draft.attachCanaries_hull hb'
  obtain ⟨built, hbuilt, hbare⟩ := wired_backend hwired
  have hsame : built.sslPassthrough = b.sslPassthrough := by
    rw [hcopy]
    exact (congrArg (·.sslPassthrough) hbare).trans (congrArg (·.sslPassthrough) hhull)
  rw [← hsame]
  rcases built_backend_cases hbuilt with ⟨_, rfl⟩ | ⟨_, _, _, rfl⟩
  · obtain ⟨service, endpoints, heq⟩ := store.fallback_eq defaultService
    rw [heq]
  · rfl

theorem sslPassthrough_arranged
    (hb : (store.arranged now defaultService resources).backends.get? k = some b) :
    b.sslPassthrough = decide (k ∈ passthroughBackendNames
      (store.unexpanded now defaultService resources).hosts) := by
  have hmarked : ((store.shadowed now defaultService resources).addStandIns store).markPassthrough.backends.get? k =
      some b := hb
  rw [Draft.get?_markPassthrough] at hmarked
  obtain ⟨b', hb', rfl⟩ := Option.map_eq_some_iff.1 hmarked
  simp only [sslPassthrough_addStandIns hb', Bool.false_or]
  rfl

theorem passthroughs_configurationOf (store : Store) (resources : List RoutedIngress) (d : Draft) :
    (store.configurationOf resources d).passthroughs = passthroughs d.hosts := rfl

theorem rootedKeys_of_mem (hv : v ∈ (store.unexpanded now defaultService resources).hosts.values) :
    RootedKeys (v.locations.map Location.key) := by
  have hlocations : locationsAt? (store.unexpanded now defaultService resources).hosts v.hostname =
      some v.locations := by
    rw [locationsAt?, unexpanded_hosts_named.get?_of_mem hv, Option.map_some]
  exact rootedKeys_unexpanded hlocations

theorem mem_hosts_synthesize : v ∈ (store.synthesize now defaultService resources).configuration.hosts ↔
    ∃ u ∈ (store.unexpanded now defaultService (admissible store.settings resources)).hosts.values,
      u.arrange = v := by
  rw [synthesize_hosts, Table.values_map, List.mem_map]

/-- The marks in terms of the configured hosts, whose roots are those of the hosts before expansion. -/
theorem sslPassthrough_synthesize
    (hb : b ∈ (store.synthesize now defaultService resources).configuration.backends) :
    b.sslPassthrough = true ↔ b.name ≠ defaultBackendName ∧
      ∃ v ∈ (store.synthesize now defaultService resources).configuration.hosts,
        v.sslPassthrough ∧ ∃ l ∈ v.roots, l.backend = b.name := by
  rw [synthesize_backends] at hb
  rw [sslPassthrough_arranged (arranged_named.get?_of_mem hb), decide_eq_true_iff, mem_passthroughBackendNames]
  refine and_congr_right fun _ => ?_
  simp only [mem_hosts_synthesize, exists_exists_and_eq_and]
  refine exists_congr fun u => and_congr_right fun hu => ?_
  rw [(rootedKeys_of_mem hu).roots_arrange]
  exact Iff.rfl

end Store
end Marks

/-- A passthrough host of a configuration has one entry, which leads to where its prefix root leads, and no
other host has any. A backend is marked if an entry leads to it or the exact root of a passthrough host does,
unless it is the default backend. -/
theorem synthesize_passthroughs (store : Store) (now : Instant) (defaultService : Option String)
    (resources : List RoutedIngress) :
    let c := (store.synthesize now defaultService resources).configuration
    (c.hosts.map (·.hostname)).Nodup ∧
      List.Forall₂ (fun h p => ∃ root ∈ h.locations, root.key = rootKey ∧
          p = ⟨root.service, root.backend, h.hostname, root.port⟩)
        (c.hosts.filter (·.sslPassthrough)) c.passthroughs ∧
      ∀ b ∈ c.backends, b.sslPassthrough = true ↔ b.name ≠ defaultBackendName ∧
        ((∃ p ∈ c.passthroughs, p.backend = b.name) ∨
          ∃ h ∈ c.hosts, h.sslPassthrough ∧ ∃ l ∈ h.locations, l.key = exactRootKey ∧ l.backend = b.name) := by
  intro c
  have hrooted : ∀ v ∈ c.hosts, ∃ root, v.Rooted root := fun v hv => by
    obtain ⟨u, hu, rfl⟩ := Store.mem_hosts_synthesize.1 hv
    exact (Store.rootedKeys_of_mem hu).rooted
  have hpassthroughs : c.passthroughs = (c.hosts.filter (·.sslPassthrough)).filterMap (·.passthrough?) :=
    Store.passthroughs_configurationOf store _ _
  refine ⟨?_, ?_, fun b hb => (Store.sslPassthrough_synthesize hb).trans (and_congr_right fun _ => ?_)⟩
  · rw [Store.synthesize_hosts]
    exact Store.arranged_hosts_named.nodup_names
  · rw [hpassthroughs]
    refine forall₂_filterMap fun v hv => ?_
    obtain ⟨root, hroot⟩ := hrooted v (List.mem_filter.1 hv).1
    exact ⟨_, hroot.passthrough?_eq, root, hroot.mem, hroot.key, rfl⟩
  · rw [hpassthroughs]
    constructor
    · rintro ⟨v, hv, hpass, l, hl, hname⟩
      obtain ⟨root, hroot⟩ := hrooted v hv
      rcases (hroot.mem_iff l).1 hl with rfl | ⟨hmem, hkey⟩
      · exact .inl ⟨_, List.mem_filterMap.2 ⟨v, List.mem_filter.2 ⟨hv, hpass⟩, hroot.passthrough?_eq⟩, hname⟩
      · exact .inr ⟨v, hv, hpass, l, hmem, hkey, hname⟩
    · rintro (⟨p, hp, hname⟩ | ⟨v, hv, hpass, l, hmem, hkey, hname⟩)
      · obtain ⟨v, hpassing, hentry⟩ := List.mem_filterMap.1 hp
        obtain ⟨hv, hpass⟩ := List.mem_filter.1 hpassing
        obtain ⟨root, hroot, rfl⟩ := Option.map_eq_some_iff.1 hentry
        exact ⟨v, hv, hpass, root, List.mem_of_head? hroot, hname⟩
      · exact ⟨v, hv, hpass, l, VirtualHost.mem_roots.2 ⟨hmem, congrArg Prod.fst hkey⟩, hname⟩

end IngressPlane
