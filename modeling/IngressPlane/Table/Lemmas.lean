import IngressPlane.Table

/-!
What each operation of a table does to look-up. After these nobody has to open a table: `get?_insert`,
`get?_erase` and `get?_mapEntries` give the value under any key, and `ext_get?` says that look-up decides
the table.
-/
namespace IngressPlane

universe u v
variable {α : Type u} {β : Type v}

theorem find?_insertEntry (key k : String) (value : α) (entries : List (String × α)) :
    (insertEntry key value entries).find? (·.1 = k) =
      if key = k then some (key, value) else entries.find? (·.1 = k) := by
  induction entries with
  | nil => by_cases h : key = k <;> simp [insertEntry, h]
  | cons head rest ih =>
    simp only [insertEntry]
    split
    next => by_cases h : key = k <;> simp [h]
    next =>
      split
      next heq => by_cases h : key = k <;> simp_all
      next hne =>
        rw [List.find?_cons, ih, List.find?_cons]
        by_cases h : head.1 = k
        · have hk : key ≠ k := fun e => hne (e.trans h.symm)
          simp [h, hk]
        · simp [h]

namespace Table

@[simp] theorem get?_empty (k : String) : (empty : Table α).get? k = none := rfl

theorem get?_insert (table : Table α) (key k : String) (value : α) :
    (table.insert key value).get? k = if key = k then some value else table.get? k := by
  simp only [get?, insert, find?_insertEntry]
  split <;> rfl

@[simp] theorem get?_insert_self (table : Table α) (key : String) (value : α) :
    (table.insert key value).get? key = some value := by simp [get?_insert]

theorem get?_insert_of_ne (table : Table α) {key k : String} (value : α) (h : key ≠ k) :
    (table.insert key value).get? k = table.get? k := by simp [get?_insert, h]

theorem contains_insert (table : Table α) (key k : String) (value : α) :
    (table.insert key value).contains k = (decide (key = k) || table.contains k) := by
  by_cases h : key = k <;> simp [contains, get?_insert, h]

theorem get?_insertNew (table : Table α) (key k : String) (value : α) :
    (table.insertNew key value).get? k =
      if key = k then some ((table.get? k).getD value) else table.get? k := by
  unfold insertNew
  by_cases h : key = k
  · subst h
    by_cases hc : table.contains key
    · obtain ⟨v, hv⟩ := Option.isSome_iff_exists.1 hc
      simp [hc, hv]
    · have hn : table.get? key = none := by simpa [contains] using hc
      simp [hc, hn]
  · split <;> simp [h, get?_insert_of_ne]

theorem get?_erase (table : Table α) (key k : String) :
    (table.erase key).get? k = if key = k then none else table.get? k := by
  simp only [get?, erase, filter, List.find?_filter]
  by_cases h : key = k
  · subst h
    simp only [if_true, Option.map_eq_none_iff, List.find?_eq_none]
    intro entry _
    by_cases he : entry.1 = key <;> simp [he]
  · have hf : (fun entry : String × α =>
          decide (decide (entry.1 ≠ key) = true ∧ decide (entry.1 = k) = true)) =
        fun entry => decide (entry.1 = k) := by
      funext entry
      by_cases he : entry.1 = k
      · have : entry.1 ≠ key := fun e => h (e.symm.trans he)
        simp_all
      · simp [he]
    simp only [h, if_false]
    exact congrArg (fun p => (table.entries.find? p).map (·.2)) hf

theorem get?_mapEntries (f : String → α → β) (table : Table α) (k : String) :
    (table.mapEntries f).get? k = (table.get? k).map (f k) := by
  simp only [get?, mapEntries]
  induction table.entries with
  | nil => rfl
  | cons head rest ih => by_cases h : head.1 = k <;> simp_all

@[simp] theorem get?_map (f : α → β) (table : Table α) (k : String) :
    (table.map f).get? k = (table.get? k).map f := get?_mapEntries _ table k

theorem get?_modify (table : Table α) (key k : String) (f : α → α) :
    (table.modify key f).get? k =
      if k = key then (table.get? k).map f else table.get? k := by
  simp only [modify, get?_mapEntries]
  split <;> simp

theorem get?_eq_some_iff {table : Table α} {k : String} {value : α} :
    table.get? k = some value ↔ (k, value) ∈ table.entries := by
  obtain ⟨entries, ordered⟩ := table
  simp only [get?]
  induction entries with
  | nil => simp
  | cons head rest ih =>
    obtain ⟨hhead, hrest⟩ := List.pairwise_cons.1 ordered
    have ih := ih hrest
    rw [List.find?_cons]
    by_cases h : head.1 = k
    · subst h
      simp only [decide_true, Option.map_some, Option.some.injEq, List.mem_cons]
      constructor
      · rintro rfl; exact .inl rfl
      · rintro (e | e)
        · exact (congrArg Prod.snd e).symm
        · exact absurd (hhead _ e) (String.lt_irrefl _)
    · simp only [h, decide_false, List.mem_cons, ih]
      constructor
      · exact .inr
      · rintro (e | e)
        · exact absurd (congrArg Prod.fst e).symm h
        · exact e

theorem ext_get? {a b : Table α} (h : ∀ k, a.get? k = b.get? k) : a = b := by
  have hmem (entry : String × α) : entry ∈ a.entries ↔ entry ∈ b.entries := by
    rw [show entry = (entry.1, entry.2) from rfl, ← get?_eq_some_iff, ← get?_eq_some_iff, h]
  obtain ⟨as, ha⟩ := a
  obtain ⟨bs, hb⟩ := b
  refine ext ?_
  simp only at hmem ⊢
  clear h
  induction as generalizing bs with
  | nil =>
    cases bs with
    | nil => rfl
    | cons head rest => exact absurd ((hmem head).2 (.head _)) (by simp)
  | cons x xs ih =>
    cases bs with
    | nil => exact absurd ((hmem x).1 (.head _)) (by simp)
    | cons y ys =>
      obtain ⟨hx, hxs⟩ := List.pairwise_cons.1 ha
      obtain ⟨hy, hys⟩ := List.pairwise_cons.1 hb
      have heads : x = y := by
        rcases List.mem_cons.1 ((hmem x).1 (.head _)) with e | e
        · exact e
        rcases List.mem_cons.1 ((hmem y).2 (.head _)) with e' | e'
        · exact e'.symm
        exact absurd (String.lt_trans (hy _ e) (hx _ e')) (String.lt_irrefl _)
      subst heads
      refine congrArg (x :: ·) (ih hxs ys hys fun entry => ?_)
      constructor
      · intro he
        rcases List.mem_cons.1 ((hmem entry).1 (.tail _ he)) with rfl | e
        · exact absurd (hx _ he) (String.lt_irrefl _)
        · exact e
      · intro he
        rcases List.mem_cons.1 ((hmem entry).2 (.tail _ he)) with rfl | e
        · exact absurd (hy _ he) (String.lt_irrefl _)
        · exact e

end Table

end IngressPlane
