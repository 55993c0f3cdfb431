/-!
Tables from text keys to values, held in ascending key order. A key has at most one value, and two
tables with the same entries are equal.
-/
namespace IngressPlane

universe u v
variable {α : Type u} {β : Type v}

/-- Places a value under `key`, in front of the first larger key. -/
def insertEntry (key : String) (value : α) : List (String × α) → List (String × α)
  | [] => [(key, value)]
  | entry :: rest =>
    if key < entry.1 then (key, value) :: entry :: rest
    else if key = entry.1 then (key, value) :: rest
    else entry :: insertEntry key value rest

theorem fst_mem_insertEntry {key : String} {value : α} {entries : List (String × α)}
    {entry : String × α} (h : entry ∈ insertEntry key value entries) :
    entry.1 = key ∨ entry ∈ entries := by
  induction entries with
  | nil => simp_all [insertEntry]
  | cons head rest ih =>
    simp only [insertEntry] at h
    split at h
    · grind
    · split at h <;> grind

theorem pairwise_insertEntry (key : String) (value : α) {entries : List (String × α)}
    (h : entries.Pairwise (fun a b => a.1 < b.1)) :
    (insertEntry key value entries).Pairwise (fun a b => a.1 < b.1) := by
  induction entries with
  | nil => simp [insertEntry]
  | cons head rest ih =>
    obtain ⟨hhead, hrest⟩ := List.pairwise_cons.1 h
    simp only [insertEntry]
    split
    next hlt =>
      refine List.pairwise_cons.2 ⟨fun entry hentry => ?_, h⟩
      rcases List.mem_cons.1 hentry with rfl | hmem
      · exact hlt
      · exact String.lt_trans hlt (hhead entry hmem)
    next hlt =>
      split
      next heq => exact List.pairwise_cons.2 ⟨fun entry hentry => heq ▸ hhead entry hentry, hrest⟩
      next hne =>
        refine List.pairwise_cons.2 ⟨fun entry hentry => ?_, ih hrest⟩
        rcases fst_mem_insertEntry hentry with heq | hmem
        · have hle : head.1 ≤ key := String.not_lt.1 hlt
          rw [heq]
          exact Decidable.byContradiction fun hnot =>
            hne (String.le_antisymm (String.not_lt.1 hnot) hle)
        · exact hhead entry hmem

structure Table (α : Type u) where
  entries : List (String × α)
  ordered : entries.Pairwise (fun a b => a.1 < b.1)

namespace Table

instance [DecidableEq α] : DecidableEq (Table α) := fun a b =>
  decidable_of_iff (a.entries = b.entries)
    ⟨fun h => by cases a; cases b; simp_all, fun h => by rw [h]⟩

@[ext] theorem ext {a b : Table α} (h : a.entries = b.entries) : a = b := by
  cases a; cases b; simp_all

def empty : Table α := ⟨[], .nil⟩

instance : EmptyCollection (Table α) := ⟨empty⟩
instance : Inhabited (Table α) := ⟨empty⟩

def insert (table : Table α) (key : String) (value : α) : Table α :=
  ⟨insertEntry key value table.entries, pairwise_insertEntry key value table.ordered⟩

/-- Inserts the entries from the left; the last of several values for a key stays. -/
def insertAll (table : Table α) (entries : List (String × α)) : Table α :=
  entries.foldl (fun acc entry => acc.insert entry.1 entry.2) table

def ofList (entries : List (String × α)) : Table α := empty.insertAll entries

def get? (table : Table α) (key : String) : Option α :=
  (table.entries.find? (·.1 = key)).map (·.2)

def contains (table : Table α) (key : String) : Bool := (table.get? key).isSome

def insertNew (table : Table α) (key : String) (value : α) : Table α :=
  if table.contains key then table else table.insert key value

def filter (keep : String → α → Bool) (table : Table α) : Table α :=
  ⟨table.entries.filter fun entry => keep entry.1 entry.2, table.ordered.filter _⟩

def erase (table : Table α) (key : String) : Table α := table.filter fun k _ => k ≠ key

def mapEntries (f : String → α → β) (table : Table α) : Table β :=
  ⟨table.entries.map fun entry => (entry.1, f entry.1 entry.2),
    List.pairwise_map.2 table.ordered⟩

def map (f : α → β) (table : Table α) : Table β := table.mapEntries fun _ => f

def modify (table : Table α) (key : String) (f : α → α) : Table α :=
  table.mapEntries fun k value => if k = key then f value else value

def keys (table : Table α) : List String := table.entries.map (·.1)
def values (table : Table α) : List α := table.entries.map (·.2)

/-- All entries of both tables; where both have a key, the second one's value. -/
def overlay (table other : Table α) : Table α := table.insertAll other.entries

end Table

def ascending (names : List String) : List String := (Table.ofList (names.map (·, ()))).keys

end IngressPlane
