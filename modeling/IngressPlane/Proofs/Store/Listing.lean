import IngressPlane.Proofs.Store.Keyed
import IngressPlane.Store.Listing

/-! The order of the listing. It is total, and strict between ingresses with different keys, so the stored
ingresses can be listed in one way only, in whatever order they are at hand (`listingOf_perm`): an ingress that is
applied comes between the older and the newer ones (`sorted_insert`). -/
namespace IngressPlane

open Std

instance : TransOrd Instant :=
  inferInstanceAs (TransCmp (compareLex (compareOn Instant.seconds) (compareOn Instant.nanos)))

instance : TransCmp listingOrder :=
  inferInstanceAs (TransCmp (compareLex (compareOn ObjectMeta.created)
    (compareLex (compareOn ObjectMeta.scope) (compareOn ObjectMeta.anyName))))

theorem names_of_listingOrder {a b : ObjectMeta} (h : listingOrder a b = .eq) :
    a.scope = b.scope ∧ a.anyName = b.anyName := by
  have hparts : compare a.created b.created = .eq ∧ a.scope = b.scope ∧ a.anyName = b.anyName := by
    simpa only [listingOrder, Ordering.then_eq_eq, LawfulEqOrd.compare_eq_iff_eq] using h
  exact hparts.2

theorem resourceKey_of_listingOrder {a b : ObjectMeta} (h : listingOrder a b = .eq) :
    a.resourceKey = b.resourceKey := by
  simp only [ObjectMeta.resourceKey, names_of_listingOrder h]

theorem filedName_of_listingOrder {a b : ObjectMeta} (h : listingOrder a b = .eq) :
    a.filedName = b.filedName := by
  simp only [ObjectMeta.filedName, ObjectMeta.scopeText, names_of_listingOrder h]

theorem listingOrder_lt {a b : Ingress} (hle : (listingOrder a.metadata b.metadata).isLE)
    (hne : a.metadata.resourceKey ≠ b.metadata.resourceKey) :
    listingOrder a.metadata b.metadata = .lt := by
  cases horder : listingOrder a.metadata b.metadata with
  | lt => rfl
  | eq => exact (hne (resourceKey_of_listingOrder horder)).elim
  | gt => simp [horder] at hle

namespace Store

variable {store : Store} {ingress : Ingress} {key : String}

def sorted (store : Store) : List Ingress := store.ingresses.values.mergeSort listedBefore

theorem listing_eq (store : Store) : store.listing = store.sorted.map store.routed := rfl

theorem mem_sorted : ingress ∈ store.sorted ↔ ingress ∈ store.ingresses.values := List.mem_mergeSort

theorem mem_listing {r : RoutedIngress} :
    r ∈ store.listing ↔ ∃ i ∈ store.ingresses.values, store.routed i = r := by
  simp only [listing, List.mem_map, List.mem_mergeSort]

/-- Ingresses that are stored in the order of the listing are listed as they are stored. -/
theorem listing_of_pairwise (h : store.ingresses.values.Pairwise fun a b => listedBefore a b = true) :
    store.listing = store.ingresses.values.map store.routed := by
  rw [listing, List.mergeSort_of_pairwise h]

theorem pairwise_mergeSort_listedBefore (ingresses : List Ingress) :
    (ingresses.mergeSort listedBefore).Pairwise fun a b => (listingOrder a.metadata b.metadata).isLE := by
  refine List.pairwise_mergeSort (fun a b c hab hbc => ?_) (fun a b => ?_) _
  · exact TransCmp.isLE_trans hab hbc
  · have hswap : listingOrder a.metadata b.metadata = (listingOrder b.metadata a.metadata).swap :=
      OrientedCmp.eq_swap
    rw [hswap]
    cases listingOrder b.metadata a.metadata <;> rfl

theorem pairwise_sorted (store : Store) :
    store.sorted.Pairwise fun a b => (listingOrder a.metadata b.metadata).isLE :=
  pairwise_mergeSort_listedBefore store.ingresses.values

/-- Sorting decides the order: stored ingresses that are known by a name which the order tells apart stand in no
other order than this one. -/
theorem eq_of_perm_sorted {name : ObjectMeta → String}
    (hname : ∀ {a b : ObjectMeta}, listingOrder a b = .eq → name a = name b) (h : store.KeyedBy name)
    {xs ys : List Ingress} (hxs : ∀ i ∈ xs, i ∈ store.ingresses.values) (hys : ∀ i ∈ ys, i ∈ store.ingresses.values)
    (hx : xs.Pairwise fun a b => (listingOrder a.metadata b.metadata).isLE)
    (hy : ys.Pairwise fun a b => (listingOrder a.metadata b.metadata).isLE) (hperm : xs.Perm ys) :
    xs = ys := by
  refine List.Perm.eq_of_pairwise (fun a b ha hb hab hba => ?_) hx hy hperm
  have hsame : name a.metadata = name b.metadata := hname (OrientedCmp.isLE_antisymm hab hba)
  have hget := Table.Named.get?_of_mem h (hxs a ha)
  rw [hsame, Table.Named.get?_of_mem h (hys b hb)] at hget
  exact (Option.some.inj hget).symm

/-- The listing of the stored ingresses as they come, in whatever order that is. -/
def listingOf (store : Store) (held : List Ingress) : List RoutedIngress :=
  (held.mergeSort listedBefore).map store.routed

/-- The order in which the stored ingresses come does not show in the listing. -/
theorem listingOf_perm (h : store.Filed) {held : List Ingress} (hperm : held.Perm store.ingresses.values) :
    store.listingOf held = store.listing := by
  have hsorted : (held.mergeSort listedBefore).Perm store.sorted :=
    (List.mergeSort_perm _ _).trans (hperm.trans (List.mergeSort_perm _ _).symm)
  have hmem : ∀ i ∈ held.mergeSort listedBefore, i ∈ store.ingresses.values := fun i hi =>
    hperm.mem_iff.1 (List.mem_mergeSort.1 hi)
  have heq : held.mergeSort listedBefore = store.sorted :=
    eq_of_perm_sorted filedName_of_listingOrder h hmem (fun _ => mem_sorted.1)
      (pairwise_mergeSort_listedBefore held) (pairwise_sorted store) hsorted
  rw [listingOf, heq, listing_eq]

theorem perm_sorted_filter (h : store.Keyed) (key : String) :
    (store.sorted.filter (·.metadata.resourceKey ≠ key)).Perm (store.ingresses.erase key).values := by
  rw [Table.Named.values_erase h]
  exact (List.mergeSort_perm _ _).filter _

theorem nodup_sorted (h : store.Keyed) : (store.sorted.map (·.metadata.resourceKey)).Nodup := by
  have hperm : (store.sorted.map (·.metadata.resourceKey)).Perm
      (store.ingresses.values.map (·.metadata.resourceKey)) := (List.mergeSort_perm _ _).map _
  exact hperm.nodup_iff.2 (Table.Named.nodup_names h)

theorem filter_split {older newer : List Ingress} (hkey : ingress.metadata.resourceKey = key)
    (h : ((older ++ ingress :: newer).map (·.metadata.resourceKey)).Nodup) :
    (∀ i ∈ older, i.metadata.resourceKey ≠ key) ∧ (∀ i ∈ newer, i.metadata.resourceKey ≠ key) ∧
      (older ++ ingress :: newer).filter (·.metadata.resourceKey ≠ key) = older ++ newer := by
  rw [List.map_append, List.map_cons, hkey, List.nodup_append, List.nodup_cons] at h
  obtain ⟨_, ⟨hnewer, _⟩, hapart⟩ := h
  have hold : ∀ i ∈ older, i.metadata.resourceKey ≠ key := fun i hi =>
    hapart _ (List.mem_map.2 ⟨i, hi, rfl⟩) key List.mem_cons_self
  have hnew : ∀ i ∈ newer, i.metadata.resourceKey ≠ key := fun i hi heq =>
    hnewer (List.mem_map.2 ⟨i, hi, heq⟩)
  have hself : [ingress].filter (fun i => decide (i.metadata.resourceKey ≠ key)) = [] := by
    simp [hkey]
  refine ⟨hold, hnew, ?_⟩
  rw [List.filter_append, ← List.singleton_append, List.filter_append, hself,
    List.filter_eq_self.2 fun i hi => decide_eq_true (hold i hi),
    List.filter_eq_self.2 fun i hi => decide_eq_true (hnew i hi), List.nil_append]

theorem sorted_insert (h : store.Keyed) (hkey : ingress.metadata.resourceKey = key) :
    ∃ older newer,
      ({ store with ingresses := store.ingresses.insert key ingress } : Store).sorted =
        older ++ ingress :: newer ∧
      store.sorted.filter (·.metadata.resourceKey ≠ key) = older ++ newer ∧
      (∀ i ∈ older, listingOrder i.metadata ingress.metadata = .lt) ∧
      (∀ i ∈ newer, listingOrder ingress.metadata i.metadata = .lt) := by
  let applied : Store := { store with ingresses := store.ingresses.insert key ingress }
  have happlied : applied.Keyed := Table.Named.insert h hkey
  have hmem : ingress ∈ applied.sorted :=
    mem_sorted.2 (Table.mem_values.2 ⟨key, Table.get?_insert_self _ _ _⟩)
  obtain ⟨older, newer, hsplit⟩ := List.append_of_mem hmem
  have hnodup := nodup_sorted happlied
  rw [hsplit] at hnodup
  obtain ⟨hold, hnew, hothers⟩ := filter_split hkey hnodup
  have hsorted := pairwise_sorted applied
  have hrest : (older ++ newer).Pairwise fun a b => (listingOrder a.metadata b.metadata).isLE := by
    rw [← hothers, ← hsplit]
    exact hsorted.sublist List.filter_sublist
  have hperm : (store.sorted.filter (·.metadata.resourceKey ≠ key)).Perm (older ++ newer) := by
    have happliedPerm := perm_sorted_filter happlied key
    rw [hsplit, hothers, Table.erase_insert] at happliedPerm
    exact (perm_sorted_filter h key).trans happliedPerm.symm
  have hstored : ∀ i ∈ store.sorted.filter (·.metadata.resourceKey ≠ key), i ∈ store.ingresses.values :=
    fun i hi => mem_sorted.1 (List.mem_filter.1 hi).1
  rw [hsplit, List.pairwise_append, List.pairwise_cons] at hsorted
  obtain ⟨_, ⟨hafter, _⟩, hbefore⟩ := hsorted
  refine ⟨older, newer, hsplit, ?_, fun i hi => ?_, fun i hi => ?_⟩
  · exact eq_of_perm_sorted resourceKey_of_listingOrder h hstored (fun i hi => hstored i (hperm.mem_iff.2 hi))
      ((pairwise_sorted store).sublist List.filter_sublist) hrest hperm
  · exact listingOrder_lt (hbefore i hi ingress List.mem_cons_self) (by rw [hkey]; exact hold i hi)
  · exact listingOrder_lt (hafter i hi) (by rw [hkey]; exact (hnew i hi).symm)

end Store
end IngressPlane
