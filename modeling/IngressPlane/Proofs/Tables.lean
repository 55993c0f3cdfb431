import IngressPlane.Table.Lemmas

/-! Look-up after whole runs of insertions, and tables whose values carry the names they stand under. -/
namespace IngressPlane

universe u v
variable {α : Type u} {β : Type v}

namespace Table

theorem contains_iff {t : Table α} {k : String} : t.contains k ↔ ∃ v, t.get? k = some v :=
  Option.isSome_iff_exists

theorem mem_values {t : Table α} {v : α} : v ∈ t.values ↔ ∃ k, t.get? k = some v := by
  simp only [values, List.mem_map, get?_eq_some_iff]
  exact ⟨fun ⟨e, he, hv⟩ => ⟨e.1, hv ▸ he⟩, fun ⟨k, hk⟩ => ⟨_, hk, rfl⟩⟩

theorem mem_keys {t : Table α} {k : String} : k ∈ t.keys ↔ t.contains k := by
  simp only [keys, List.mem_map, contains_iff, get?_eq_some_iff]
  exact ⟨fun ⟨e, he, hk⟩ => ⟨e.2, hk ▸ he⟩, fun ⟨v, hv⟩ => ⟨_, hv, rfl⟩⟩

theorem values_map (f : α → β) (t : Table α) : (t.map f).values = t.values.map f := by
  simp [values, map, mapEntries]

@[simp] theorem contains_map (f : α → β) (t : Table α) (k : String) :
    (t.map f).contains k = t.contains k := by simp [contains]

theorem keys_map (f : α → β) (t : Table α) : (t.map f).keys = t.keys := by
  simp [keys, map, mapEntries]

theorem get?_filter_eq_some_iff {keep : String → α → Bool} {t : Table α} {k : String} {v : α} :
    (t.filter keep).get? k = some v ↔ t.get? k = some v ∧ keep k v := by
  rw [get?_eq_some_iff, get?_eq_some_iff, filter, List.mem_filter]

theorem get?_filter_of_keep {keep : String → α → Bool} {k : String} (h : ∀ v, keep k v = true) (t : Table α) :
    (t.filter keep).get? k = t.get? k := by
  refine Option.ext fun v => ?_
  rw [get?_filter_eq_some_iff, h, and_iff_left rfl]

theorem values_filter (p : α → Bool) (t : Table α) : (t.filter fun _ v => p v).values = t.values.filter p := by
  unfold values filter
  rw [List.filter_map]
  rfl

theorem insert_of_get? {t : Table α} {k : String} {v : α} (h : t.get? k = some v) : t.insert k v = t := by
  refine ext_get? fun k' => ?_
  rw [get?_insert]
  split
  next hk => rw [← hk, h]
  next => rfl

theorem insert_comm (t : Table α) {k k' : String} (h : k ≠ k') (v v' : α) :
    (t.insert k v).insert k' v' = (t.insert k' v').insert k v := by
  refine ext_get? fun name => ?_
  simp only [get?_insert]
  by_cases hk : k = name
  · simp [hk, hk ▸ h.symm]
  · simp [hk]

theorem get?_of_map_eq {f : α → β} {s t : Table α} (h : s.map f = t.map f) {k : String} {v : α}
    (hv : s.get? k = some v) : ∃ w, t.get? k = some w ∧ f w = f v := by
  have hget := congrArg (·.get? k) h
  simp only [get?_map, hv, Option.map_some] at hget
  exact Option.map_eq_some_iff.1 hget.symm

theorem get?_insertNew_cases {t : Table α} {key k : String} {v value : α}
    (h : (t.insertNew key value).get? k = some v) : t.get? k = some v ∨ v = value := by
  unfold insertNew at h
  split at h
  · exact .inl h
  · rw [get?_insert] at h
    split at h
    · exact .inr (Option.some.inj h).symm
    · exact .inl h

theorem get?_insertAll {entries : List (String × α)} (h : entries.Pairwise (fun a b => a.1 < b.1))
    (t : Table α) (k : String) :
    (t.insertAll entries).get? k = ((entries.find? (·.1 = k)).map (·.2)).or (t.get? k) := by
  induction entries generalizing t with
  | nil => rfl
  | cons e rest ih =>
    obtain ⟨he, hrest⟩ := List.pairwise_cons.1 h
    have hstep : (t.insertAll (e :: rest)).get? k = ((t.insert e.1 e.2).insertAll rest).get? k := rfl
    rw [hstep, ih hrest, get?_insert, List.find?_cons]
    by_cases hk : e.1 = k
    · have hnone : rest.find? (·.1 = k) = none := by
        simp only [List.find?_eq_none, decide_eq_true_eq]
        intro x hx heq
        exact String.lt_irrefl k (by simpa [hk, heq] using he x hx)
      simp [hk, hnone]
    · simp [hk]

theorem mem_of_mem_ofList {entries : List (String × α)} {entry : String × α}
    (h : entry ∈ (ofList entries).entries) : entry ∈ entries := by
  have hrun : ∀ k v, (ofList entries).get? k = some v → (k, v) ∈ entries := by
    refine List.foldlRecOn (motive := fun t : Table α => ∀ k v, t.get? k = some v → (k, v) ∈ entries) _ _
      (fun _ _ h => nomatch h) fun t ht e he k v hv => ?_
    rw [get?_insert] at hv
    split at hv
    next hk =>
      cases hv
      exact hk ▸ he
    next => exact ht k v hv
  exact hrun entry.1 entry.2 (get?_eq_some_iff.2 h)

theorem contains_insertAll (t : Table α) (entries : List (String × α)) (k : String) :
    (t.insertAll entries).contains k ↔ k ∈ entries.map (·.1) ∨ t.contains k := by
  induction entries generalizing t with
  | nil => simp [insertAll]
  | cons e entries ih =>
    have hstep : t.insertAll (e :: entries) = (t.insert e.1 e.2).insertAll entries := rfl
    rw [hstep, ih, contains_insert, Bool.or_eq_true, decide_eq_true_iff, List.map_cons,
      List.mem_cons, or_assoc, or_left_comm, eq_comm]

theorem get?_ofList_of_mem {entries : List (String × α)} {k : String} {v : α} (h : (k, v) ∈ entries)
    (hsame : ∀ w, (k, w) ∈ entries → w = v) : (ofList entries).get? k = some v := by
  have hthere : (ofList entries).contains k := (contains_insertAll ..).2 (.inl (List.mem_map_of_mem h))
  obtain ⟨w, hw⟩ := contains_iff.1 hthere
  rw [hw, hsame w (mem_of_mem_ofList (get?_eq_some_iff.1 hw))]

theorem get?_overlay (t other : Table α) (k : String) :
    (t.overlay other).get? k = (other.get? k).or (t.get? k) :=
  get?_insertAll other.ordered t k

/-- After a run of new insertions a key has its old value, or else the first one offered for it. -/
theorem get?_foldl_insertNew (key : β → String) (value : β → α) (xs : List β) (t : Table α)
    (k : String) :
    (xs.foldl (fun t x => t.insertNew (key x) (value x)) t).get? k =
      (t.get? k).or ((xs.find? (key · = k)).map value) := by
  induction xs generalizing t with
  | nil => simp
  | cons x xs ih =>
    rw [List.foldl_cons, ih, get?_insertNew, List.find?_cons]
    by_cases hk : key x = k
    · subst hk
      cases t.get? (key x) <;> simp
    · simp [hk]

def Named (name : α → String) (t : Table α) : Prop := ∀ k v, t.get? k = some v → name v = k

namespace Named

variable {name : α → String} {t : Table α}

theorem empty : (Table.empty : Table α).Named name := by simp [Named]

theorem insert (h : t.Named name) {k : String} {v : α} (hv : name v = k) :
    (t.insert k v).Named name := by
  intro k' v' hk'
  rw [get?_insert] at hk'
  split at hk'
  next heq => cases hk'; exact hv.trans heq
  next => exact h k' v' hk'

theorem insertNew (h : t.Named name) {k : String} {v : α} (hv : name v = k) :
    (t.insertNew k v).Named name := by
  unfold Table.insertNew
  split
  · exact h
  · exact h.insert hv

theorem erase (h : t.Named name) (k : String) : (t.erase k).Named name := by
  intro k' v' hk'
  rw [get?_erase] at hk'
  split at hk'
  · cases hk'
  · exact h k' v' hk'

theorem map {name' : β → String} (h : t.Named name) {f : α → β} (hf : ∀ v, name' (f v) = name v) :
    (t.map f).Named name' := by
  intro k' v' hk'
  rw [get?_map] at hk'
  obtain ⟨v, hv, rfl⟩ := Option.map_eq_some_iff.1 hk'
  exact (hf v).trans (h k' v hv)

theorem of_map {f : α → α} (hf : ∀ v, name (f v) = name v) (h : (t.map f).Named name) :
    t.Named name := by
  intro k v hk
  rw [← hf v]
  exact h k (f v) (by simp [hk])

theorem overlay {other : Table α} (h : t.Named name) (h' : other.Named name) :
    (t.overlay other).Named name := by
  intro k v hk
  rw [get?_overlay] at hk
  cases hother : other.get? k with
  | none => exact h k v (by simpa [hother] using hk)
  | some w => exact h' k v (by simpa [hother] using hk)

theorem mem_names (h : t.Named name) {n : String} : n ∈ t.values.map name ↔ t.contains n := by
  simp only [List.mem_map, mem_values, contains_iff]
  constructor
  · rintro ⟨v, ⟨k, hk⟩, rfl⟩
    exact ⟨v, h k v hk ▸ hk⟩
  · rintro ⟨v, hv⟩
    exact ⟨v, ⟨n, hv⟩, h n v hv⟩

theorem get?_of_mem (h : t.Named name) {v : α} (hv : v ∈ t.values) : t.get? (name v) = some v := by
  obtain ⟨k, hk⟩ := mem_values.1 hv
  rwa [h k v hk]

theorem map_values (h : t.Named name) : t.values.map name = t.keys := by
  rw [values, keys, List.map_map]
  exact List.map_congr_left fun e he => h e.1 e.2 (get?_eq_some_iff.2 he)

theorem nodup_names (h : t.Named name) : (t.values.map name).Nodup := by
  rw [h.map_values, keys, List.Nodup, List.pairwise_map]
  refine t.ordered.imp fun {a b} hlt heq => ?_
  rw [heq] at hlt
  exact String.lt_irrefl _ hlt

theorem values_erase (h : t.Named name) (k : String) :
    (t.erase k).values = t.values.filter (name · ≠ k) := by
  unfold values Table.erase Table.filter
  rw [List.filter_map]
  refine congrArg (List.map Prod.snd) (List.filter_congr fun e he => ?_)
  have hname : name e.2 = e.1 := h e.1 e.2 (get?_eq_some_iff.2 he)
  simp [hname]

end Named

theorem keys_congr {s : Table α} {t : Table β} (h : ∀ k, s.contains k = t.contains k) :
    s.keys = t.keys := by
  have hunit : s.map (fun _ => ()) = t.map fun _ => () := by
    refine ext_get? fun k => ?_
    have hk := h k
    simp only [contains] at hk
    rw [get?_map, get?_map]
    cases hs : s.get? k <;> cases ht : t.get? k <;> simp [hs, ht] at hk ⊢
  rw [← keys_map (fun _ => ()) s, hunit, keys_map]

theorem erase_insert (t : Table α) (k : String) (v : α) : (t.insert k v).erase k = t.erase k := by
  refine ext_get? fun k' => ?_
  rw [get?_erase, get?_erase, get?_insert]
  split <;> rfl

end Table
theorem pairwise_ascending (names : List String) : (ascending names).Pairwise (· < ·) :=
  List.pairwise_map.2 (Table.ofList (names.map (·, ()))).ordered

theorem mem_ascending {names : List String} {name : String} : name ∈ ascending names ↔ name ∈ names := by
  unfold ascending Table.ofList
  rw [Table.mem_keys, Table.contains_insertAll]
  simp [Table.contains]

end IngressPlane
