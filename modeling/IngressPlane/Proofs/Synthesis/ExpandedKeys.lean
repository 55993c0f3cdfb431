import IngressPlane.Proofs.Synthesis.Ownership

/-! The keys of expanded locations. A key that expansion makes up is none of those there are before, and shows
which location it is made from, so no two locations of a host get to share one (`nodup_expandPrefixes`).
Nothing is lost either: each location keeps a copy that knows its path (`synthesize_expansion`). -/
namespace IngressPlane

variable {keys : List (String × PathType)} {key : String × PathType} {a b l l' : Location}
  {ls : List Location} {store : Store} {now : Instant} {defaultService : Option String}
  {resources : List RoutedIngress}

theorem slashEnded_of_ne {path : String} (h : slashEnded path ≠ path) : slashEnded path = path ++ "/" := by
  unfold slashEnded at h ⊢
  split
  next hended => exact (h (if_pos hended)).elim
  next => rfl

namespace Location

theorem isLeftAs_eq_false (h : l.isLeftAs keys = false) :
    l.pathType = .under ∧ (slashEnded l.path ≠ l.path → (slashEnded l.path, .under) ∉ keys) := by
  simp only [isLeftAs, Bool.or_eq_false_iff, Bool.and_eq_false_imp, decide_eq_true_eq,
    List.contains_eq_mem, decide_eq_false_iff_not, ne_eq, Decidable.not_not] at h
  exact ⟨h.1.1.1, h.2⟩

/-- Whether expansion makes a key up for a location: no location has it yet, and it is the path of this one
with a slash, or the path itself as an exact one. -/
def MakesUp (keys : List (String × PathType)) (l : Location) (key : String × PathType) : Prop :=
  key ∉ keys ∧ l.pathType = .under ∧ (key = (l.path ++ "/", .under) ∨ key = (l.path, .exact))

theorem key_expand (h : l' ∈ l.expand keys) : l'.key = l.key ∨ l.MakesUp keys l'.key := by
  rcases expand_cases h with ⟨rfl, _⟩ | rfl | ⟨hleft, hform⟩
  · exact .inl rfl
  · exact .inl rfl
  · obtain ⟨htype, hfree⟩ := isLeftAs_eq_false hleft
    rcases hform with rfl | ⟨rfl, hexact⟩
    · by_cases hended : slashEnded l.path = l.path
      · exact .inl (congrArg (·, l.pathType) hended)
      · have hkey : l.slashed.key = (l.path ++ "/", .under) := by
          rw [← slashEnded_of_ne hended, ← htype]
          rfl
        refine .inr ⟨?_, htype, .inl hkey⟩
        rw [hkey, ← slashEnded_of_ne hended]
        exact hfree hended
    · exact .inr ⟨hexact, htype, .inr rfl⟩

theorem MakesUp.key_eq (ha : a.MakesUp keys key) (hb : b.MakesUp keys key) : a.key = b.key := by
  obtain ⟨_, hatype, haform⟩ := ha
  obtain ⟨_, hbtype, hbform⟩ := hb
  have hpath : a.path = b.path := by
    rcases haform with rfl | rfl <;> rcases hbform with h | h
    · exact (String.append_left_inj "/").1 (congrArg Prod.fst h)
    · cases congrArg Prod.snd h
    · cases congrArg Prod.snd h
    · exact congrArg Prod.fst h
  rw [Location.key, Location.key, hpath, hatype, hbtype]

theorem nodup_keys_expand (keys : List (String × PathType)) (l : Location) :
    ((l.expand keys).map Location.key).Nodup := by
  rw [expand_eq]
  split
  · exact List.nodup_singleton _
  · split
    · exact List.nodup_singleton _
    next hleft =>
      split
      · exact List.nodup_singleton _
      · have htype : l.pathType = .under := (isLeftAs_eq_false (by simpa using hleft)).1
        have hne : l.slashed.key ≠ l.exactCopy.key := fun heq => by
          have hexact : l.pathType = .exact := congrArg Prod.snd heq
          rw [hexact] at htype
          cases htype
        simpa using hne

theorem ingressPath_expand (h : l' ∈ l.expand keys) (hown : l.ingressPath = l.path) :
    l'.ingressPath = l.path := by
  rcases expand_cases h with ⟨rfl, _⟩ | rfl | ⟨_, rfl | ⟨rfl, _⟩⟩
  · exact hown
  · rfl
  · rfl
  · rfl

end Location

theorem Location.key_eq_of_expand {a' b' : Location} (ha : a ∈ ls) (hb : b ∈ ls)
    (ha' : a' ∈ a.expand (ls.map Location.key)) (hb' : b' ∈ b.expand (ls.map Location.key))
    (hsame : a'.key = b'.key) : a.key = b.key := by
  rcases Location.key_expand ha' with hkept | hmade <;>
    rcases Location.key_expand hb' with hkept' | hmade'
  · rw [← hkept, hsame, hkept']
  · refine (hmade'.1 ?_).elim
    rw [← hsame, hkept]
    exact List.mem_map_of_mem ha
  · refine (hmade.1 ?_).elim
    rw [hsame, hkept']
    exact List.mem_map_of_mem hb
  · exact hmade.key_eq (hsame ▸ hmade')

theorem nodup_expandPrefixes (h : (ls.map Location.key).Nodup) :
    ((expandPrefixes ls).map Location.key).Nodup := by
  unfold expandPrefixes
  rw [List.map_flatMap, List.nodup_flatMap]
  refine ⟨fun l _ => l.nodup_keys_expand _, (List.pairwise_map.1 h).imp_of_mem fun {a b} ha hb hne => ?_⟩
  intro key hka hkb
  obtain ⟨a', ha', rfl⟩ := List.mem_map.1 hka
  obtain ⟨b', hb', hsame⟩ := List.mem_map.1 hkb
  exact hne (Location.key_eq_of_expand ha hb ha' hb' hsame.symm)

theorem VirtualHost.nodup_arrange {v : VirtualHost} (h : (v.locations.map Location.key).Nodup) :
    (v.arrange.locations.map Location.key).Nodup :=
  (((List.mergeSort_perm _ _).map _).nodup_iff).2 (nodup_expandPrefixes h)

namespace Store

theorem allLocations_ingressPath : AllLocations (fun l => l.ingressPath = l.path)
    (store.wired now defaultService resources).hosts := by
  refine Draft.allLocations_foldl_wire (fun host ls hls => ?_) fun _ _ _ _ _ => ⟨rfl, fun _ _ _ h => h⟩
  rw [locationsAt?_built] at hls
  exact allLocations_openedHosts (P := fun l => l.ingressPath = l.path) rfl (fun _ _ => rfl)
    (fun _ _ _ _ _ _ _ h => h) host ls hls

theorem unexpanded_keys {host : String}
    (h : locationsAt? (store.unexpanded now defaultService resources).hosts host = some ls) :
    (ls.map Location.key).Nodup ∧ ∀ l ∈ ls, l.ingressPath = l.path := by
  refine ⟨?_, fun l hl => ?_⟩
  · obtain ⟨old, hold, hkeys⟩ := keys_unexpanded h
    rw [hkeys]
    exact nodup_wired hold
  · obtain ⟨f, hf, hlocations⟩ := store.locationsAt?_unexpanded now defaultService resources
    rw [hlocations] at h
    obtain ⟨old, hold, rfl⟩ := Option.map_eq_some_iff.1 h
    obtain ⟨l, hmem, rfl⟩ := List.mem_map.1 hl
    have hwritten : (f l).ingressPath = l.ingressPath := by
      simpa using congrArg Location.ingressPath (hf l)
    have hpath : (f l).path = l.path := by simpa using congrArg Location.path (hf l)
    rw [hwritten, hpath]
    exact allLocations_ingressPath host old hold l hmem

theorem synthesize_hosts (resources : List RoutedIngress) :
    (store.synthesize now defaultService resources).configuration.hosts =
      ((store.unexpanded now defaultService (admissible store.settings resources)).hosts.map
        VirtualHost.arrange).values := rfl

end Store

/-- In each host of a configuration no two locations share a path and type. Each location that a host has
after wiring and stand-ins is still there, perhaps at another path, with its owner, its backend and the path
that it is written with; and there are no others. -/
theorem synthesize_expansion (store : Store) (now : Instant) (defaultService : Option String)
    (resources : List RoutedIngress) :
    let d := (store.shadowed now defaultService (admissible store.settings resources)).addStandIns store
    let c := (store.synthesize now defaultService resources).configuration
    (∀ v ∈ c.hosts, (v.locations.map Location.key).Nodup) ∧
      (∀ host ls, locationsAt? d.hosts host = some ls → ∃ v ∈ c.hosts, v.hostname = host ∧
        ∀ l ∈ ls, ∃ l' ∈ v.locations, l'.owner = l.owner ∧ l'.backend = l.backend ∧
          l'.ingressPath = l.path) ∧
      (∀ v ∈ c.hosts, ∃ ls, locationsAt? d.hosts v.hostname = some ls ∧
        ∀ l' ∈ v.locations, ∃ l ∈ ls, l'.owner = l.owner ∧ l'.backend = l.backend ∧
          l'.ingressPath = l.path) := by
  intro d c
  have hnamed : d.hosts.Named VirtualHost.hostname := Store.unexpanded_hosts_named
  have hkeys {host : String} {ls : List Location} (hls : locationsAt? d.hosts host = some ls) :
      (ls.map Location.key).Nodup ∧ ∀ l ∈ ls, l.ingressPath = l.path := Store.unexpanded_keys hls
  have hhosts : c.hosts = d.hosts.values.map VirtualHost.arrange :=
    (Store.synthesize_hosts resources).trans (Table.values_map _ _)
  -- what a location is expanded to has its content and knows its path
  have hcopy {v : VirtualHost} (hv : locationsAt? d.hosts v.hostname = some v.locations) {l l' : Location}
      (hl : l ∈ v.locations) (hl' : l' ∈ l.expand (v.locations.map Location.key)) :
      l'.owner = l.owner ∧ l'.backend = l.backend ∧ l'.ingressPath = l.path := by
    have hcontent := Location.content_expand hl'
    exact ⟨by simpa using congrArg Location.owner hcontent, by simpa using congrArg Location.backend hcontent,
      Location.ingressPath_expand hl' ((hkeys hv).2 l hl)⟩
  have hat {v : VirtualHost} (hv : v ∈ d.hosts.values) :
      locationsAt? d.hosts v.hostname = some v.locations := by
    rw [locationsAt?, hnamed.get?_of_mem hv, Option.map_some]
  rw [hhosts]
  refine ⟨fun v' hv' => ?_, fun host ls hls => ?_, fun v' hv' => ?_⟩
  · obtain ⟨v, hv, rfl⟩ := List.mem_map.1 hv'
    exact VirtualHost.nodup_arrange (hkeys (hat hv)).1
  · obtain ⟨v, hv, rfl⟩ := Option.map_eq_some_iff.1 hls
    obtain rfl := hnamed host v hv
    refine ⟨v.arrange, List.mem_map_of_mem (Table.mem_values.2 ⟨_, hv⟩), rfl, fun l hl => ?_⟩
    obtain ⟨l', hl'⟩ := List.exists_mem_of_ne_nil _ (l.expand_ne_nil (v.locations.map Location.key))
    exact ⟨l', mem_arrange.2 ⟨l, hl, hl'⟩, hcopy hls hl hl'⟩
  · obtain ⟨v, hv, rfl⟩ := List.mem_map.1 hv'
    refine ⟨v.locations, hat hv, fun l' hl' => ?_⟩
    obtain ⟨l, hl, hexpanded⟩ := mem_arrange.1 hl'
    exact ⟨l, hl, hcopy (hat hv) hl hexpanded⟩

end IngressPlane
