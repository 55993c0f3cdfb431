import IngressPlane.Proofs.Synthesis.OwnPolicies

/-! Whose locations are gone after a change of the store. Every location that has an owner belongs to a stored
ingress, and stored ingresses are told apart by their keys. So an ingress that is deleted is reported exactly if it
had a location, and one that stays only if it has lost the last one (`removedOwners_withoutIngresses`). -/
namespace IngressPlane

variable {store : Store} {now : Instant} {defaultService : Option String} {gone : List Ingress} {i : Ingress}
  {c previous next : Configuration} {key : String}

namespace Configuration

/-- Whether a location belongs to an ingress. Placeholders count, and so does the root of the catch-all host. -/
def HasLocationOf (c : Configuration) (i : Ingress) : Prop :=
  ∃ h ∈ c.hosts, ∃ l ∈ h.locations, ∃ owner, l.owner = some owner ∧
    owner.scope = i.metadata.scopeText ∧ owner.name = i.metadata.anyName

theorem mem_ownerKeys : key ∈ c.ownerKeys ↔
    ∃ l ∈ c.locations, ∃ owner, l.owner = some owner ∧ owner.scope ++ "/" ++ owner.name = key := by
  rw [ownerKeys, mem_ascending, List.mem_map]
  constructor
  · rintro ⟨owner, howner, rfl⟩
    obtain ⟨l, hl, hlowner⟩ := List.mem_filterMap.1 howner
    exact ⟨l, hl, owner, hlowner, rfl⟩
  · rintro ⟨l, hl, owner, hlowner, rfl⟩
    exact ⟨owner, List.mem_filterMap.2 ⟨l, hl, hlowner⟩, rfl⟩

theorem mem_removedOwners :
    key ∈ previous.removedOwners next ↔ key ∈ previous.ownerKeys ∧ key ∉ next.ownerKeys := by
  simp [removedOwners]

theorem pairwise_removedOwners (previous next : Configuration) :
    (previous.removedOwners next).Pairwise (· < ·) :=
  (pairwise_ascending _).filter _

theorem HasLocationOf.mem_ownerKeys (h : c.HasLocationOf i) : i.metadata.filedName ∈ c.ownerKeys := by
  obtain ⟨host, hhost, l, hl, owner, howner, hscope, hname⟩ := h
  refine Configuration.mem_ownerKeys.2 ⟨l, List.mem_flatMap.2 ⟨host, hhost, hl⟩, owner, howner, ?_⟩
  rw [hscope, hname, ObjectMeta.filedName]

end Configuration

namespace Store

def withoutIngresses (store : Store) (gone : List Ingress) : Store :=
  gone.foldl (fun store i => store.delete .ingress i.metadata.scopeText i.metadata.anyName) store

theorem Filed.delete (h : store.Filed) (scope name : String) : (store.delete .ingress scope name).Filed :=
  KeyedBy.delete h .ingress scope name

theorem Filed.withoutIngresses (h : store.Filed) (gone : List Ingress) : (store.withoutIngresses gone).Filed :=
  List.foldlRecOn (motive := Store.Filed) gone _ h fun _ h _ _ => h.delete _ _

theorem mem_withoutIngresses_iff (h : store.Filed) : i ∈ (store.withoutIngresses gone).ingresses.values ↔
    i ∈ store.ingresses.values ∧ ∀ j ∈ gone, i.metadata.filedName ≠ j.metadata.filedName := by
  induction gone generalizing store with
  | nil => simp [withoutIngresses]
  | cons j gone ih =>
    have hvalues : (store.delete .ingress j.metadata.scopeText j.metadata.anyName).ingresses.values =
        store.ingresses.values.filter (·.metadata.filedName ≠ j.metadata.filedName) :=
      Table.Named.values_erase h _
    have hstep : store.withoutIngresses (j :: gone) =
        (store.delete .ingress j.metadata.scopeText j.metadata.anyName).withoutIngresses gone := rfl
    rw [hstep, ih (h.delete _ _), hvalues, List.mem_filter, decide_eq_true_iff, List.forall_mem_cons, and_assoc]

theorem mem_withoutIngresses (h : store.Filed) (hgone : ∀ j ∈ gone, j ∈ store.ingresses.values) :
    i ∈ (store.withoutIngresses gone).ingresses.values ↔ i ∈ store.ingresses.values ∧ i ∉ gone := by
  rw [mem_withoutIngresses_iff h]
  refine and_congr_right fun hi => ⟨fun hnames hmem => hnames i hmem rfl, fun hnot j hj hsame => hnot ?_⟩
  rwa [KeyedBy.eq_of_name h hi (hgone j hj) hsame]

theorem exists_of_mem_ownerKeys (h : key ∈ (store.synthesizeAll now defaultService).configuration.ownerKeys) :
    ∃ i ∈ store.ingresses.values, i.metadata.filedName = key ∧
      (store.synthesizeAll now defaultService).configuration.HasLocationOf i := by
  obtain ⟨l, hl, owner, howner, rfl⟩ := Configuration.mem_ownerKeys.1 h
  obtain ⟨counted, hcounted, hcountedOwner, _⟩ := exists_owner hl howner
  rw [primaries_admissible] at hcounted
  obtain ⟨r, hr, rfl⟩ := List.mem_map.1 hcounted
  obtain ⟨i, hi, rfl⟩ := mem_listing.1 (mem_primaries.1 hr).1
  rw [RoutedIngress.counted_owner] at hcountedOwner
  subst hcountedOwner
  obtain ⟨host, hhost, hl⟩ := List.mem_flatMap.1 hl
  exact ⟨i, hi, rfl, host, hhost, l, hl, _, howner, rfl, rfl⟩

/-- A stored ingress has its key among the owners exactly if it has a location. -/
theorem mem_ownerKeys_synthesizeAll (h : store.Filed) (hi : i ∈ store.ingresses.values) :
    i.metadata.filedName ∈ (store.synthesizeAll now defaultService).configuration.ownerKeys ↔
      (store.synthesizeAll now defaultService).configuration.HasLocationOf i := by
  refine ⟨fun hkey => ?_, fun hlocation => hlocation.mem_ownerKeys⟩
  obtain ⟨j, hj, hsame, hlocation⟩ := exists_of_mem_ownerKeys hkey
  rwa [KeyedBy.eq_of_name h hi hj hsame.symm]

/-- What is reported after stored ingresses have been deleted, each by its namespace and name, in ascending
order: of the deleted ones those that had a location, be it a placeholder or the root of the catch-all host, and
of the others those that have lost their last one to the deletion. Every run of events leaves a store like the one
taken here (`filed_run`). -/
theorem removedOwners_withoutIngresses (hfiled : store.Filed)
    (hgone : ∀ i ∈ gone, i ∈ store.ingresses.values) (now later : Instant) (defaultService : Option String) :
    let previous := (store.synthesizeAll now defaultService).configuration
    let next := ((store.withoutIngresses gone).synthesizeAll later defaultService).configuration
    let removed := previous.removedOwners next
    removed.Pairwise (· < ·) ∧
    (∀ i ∈ gone, i.metadata.filedName ∈ removed ↔ previous.HasLocationOf i) ∧
    (∀ i ∈ store.ingresses.values, i ∉ gone →
      (i.metadata.filedName ∈ removed ↔ previous.HasLocationOf i ∧ ¬ next.HasLocationOf i)) ∧
    ∀ key ∈ removed, ∃ i ∈ store.ingresses.values, i.metadata.filedName = key := by
  intro previous next removed
  refine ⟨Configuration.pairwise_removedOwners _ _, fun i hi => ?deleted, fun i hi hnot => ?kept,
    fun key hkey => ?known⟩
  case deleted =>
    rw [Configuration.mem_removedOwners, mem_ownerKeys_synthesizeAll hfiled (hgone i hi), and_iff_left_iff_imp]
    -- An owner of the next configuration is still stored, and nothing else goes under its name.
    intro _ hkey
    obtain ⟨j, hj, hsame, _⟩ := exists_of_mem_ownerKeys hkey
    exact (mem_withoutIngresses_iff hfiled).1 hj |>.2 i hi hsame
  case kept =>
    have hstays : i ∈ (store.withoutIngresses gone).ingresses.values :=
      (mem_withoutIngresses hfiled hgone).2 ⟨hi, hnot⟩
    rw [Configuration.mem_removedOwners, mem_ownerKeys_synthesizeAll hfiled hi,
      mem_ownerKeys_synthesizeAll (hfiled.withoutIngresses gone) hstays]
  case known =>
    obtain ⟨i, hi, hname, _⟩ := exists_of_mem_ownerKeys (Configuration.mem_removedOwners.1 hkey).1
    exact ⟨i, hi, hname⟩

def holdingAll (ingresses : List Ingress) : Store :=
  { options := {}, ingresses := .ofList (ingresses.map fun i => (i.metadata.filedName, i)) }

theorem filed_holdingAll (ingresses : List Ingress) : (holdingAll ingresses).Filed := by
  unfold Filed KeyedBy holdingAll Table.ofList Table.insertAll
  rw [List.foldl_map]
  exact List.foldlRecOn (motive := fun t : Table Ingress => t.Named fun i => i.metadata.filedName)
    ingresses _ Table.Named.empty fun _ h _ _ => h.insert rfl

/-- A canary and an ingress on the catch-all host lead to a service that an older rule of another host has made a
backend of. With that rule deleted it is the canary that makes the backend, and the ingress loses the root too. -/
theorem removedOwners_withoutIngresses_of_canary :
    let first := rootIngress "ns" "first" "a.com" "web"
    let canary := annotated (rootIngress "ns" "shadow" "" "web") "canary" "true"
    let site := rootIngress "ns" "site" "" "web"
    let store := holdingAll [first, canary, site]
    let previous := (store.synthesizeAll ⟨0, 0⟩ none).configuration
    let next := ((store.withoutIngresses [first]).synthesizeAll ⟨0, 0⟩ none).configuration
    previous.removedOwners next = ["ns/first", "ns/site"] ∧ previous.HasLocationOf first ∧
      previous.HasLocationOf site ∧ ¬ next.HasLocationOf site := by
  intro first canary site store previous next
  have hremoved : previous.removedOwners next = ["ns/first", "ns/site"] := by
    have hbefore : store.ingresses.values.Pairwise fun a b => listedBefore a b = true := by decide +kernel
    have hafter : (store.withoutIngresses [first]).ingresses.values.Pairwise fun a b =>
        listedBefore a b = true := by decide +kernel
    unfold previous next synthesizeAll
    rw [listing_of_pairwise hbefore, listing_of_pairwise hafter]
    decide +kernel
  have hstored : first ∈ store.ingresses.values ∧ site ∈ store.ingresses.values := by decide +kernel
  have hstays : site ∉ [first] := by decide +kernel
  have hkeys : first.metadata.filedName ∈ ["ns/first", "ns/site"] ∧
      site.metadata.filedName ∈ ["ns/first", "ns/site"] := by decide +kernel
  rw [← hremoved] at hkeys
  obtain ⟨_, hdeleted, hkept, _⟩ := removedOwners_withoutIngresses (filed_holdingAll _)
    (List.forall_mem_singleton.2 hstored.1) ⟨0, 0⟩ ⟨0, 0⟩ none
  exact ⟨hremoved, (hdeleted first (List.mem_singleton_self first)).1 hkeys.1,
    (hkept site hstored.2 hstays).1 hkeys.2⟩

end Store
end IngressPlane
