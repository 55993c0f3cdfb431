import Mathlib.Algebra.Group.Int.Defs
import Mathlib.Algebra.Group.Nat.Defs
import IngressPlane.Json.Written
import IngressPlane.Table

/-! Values that are read back as they are written: their integers fit into 64 bits, no object repeats a name, and
not too many containers are inside one another. -/
namespace IngressPlane.Json

/-- A value that has at most so many containers inside one another and can be read back. -/
inductive Plain : Nat → Json → Prop
  | null {depth : Nat} : Plain depth .null
  | bool {depth : Nat} {value : Bool} : Plain depth (.bool value)
  | integer {depth : Nat} {n : Int} (hlow : -2 ^ 63 ≤ n) (hhigh : n < 2 ^ 64) : Plain depth (.integer n)
  | string {depth : Nat} {s : String} : Plain depth (.string s)
  | array {depth : Nat} {items : List Json} (hitems : ∀ item ∈ items, Plain depth item) :
      Plain (depth + 1) (.array items)
  | object {depth : Nat} {members : List (String × Json)} (hnames : (members.map (·.1)).Nodup)
      (hmembers : ∀ member ∈ members, Plain depth member.2) : Plain (depth + 1) (.object members)

variable {depth : Nat} {value : Json}

theorem settledItems_of_forall {items : List Json} (h : ∀ item ∈ items, item.settled = item) :
    settledItems items = items := by
  induction items with
  | nil => rfl
  | cons item rest ih =>
    rw [settledItems, h item List.mem_cons_self, ih fun other hother => h other (List.mem_cons_of_mem item hother)]

theorem settledMembers_of_forall {members : List (String × Json)} (hnames : (members.map (·.1)).Nodup)
    (h : ∀ member ∈ members, member.2.settled = member.2) : settledMembers members = members := by
  induction members with
  | nil => rfl
  | cons member rest ih =>
    obtain ⟨name, value⟩ := member
    obtain ⟨hname, hrest⟩ := List.nodup_cons.1 hnames
    have hfresh : rest.any (·.1 = name) = false := List.any_eq_false.2 fun other hother hsame =>
      hname (List.mem_map.2 ⟨other, hother, of_decide_eq_true hsame⟩)
    have hvalue : value.settled = value := h (name, value) List.mem_cons_self
    rw [settledMembers, hfresh, if_neg Bool.false_ne_true, hvalue,
      ih hrest fun other hother => h other (List.mem_cons_of_mem _ hother)]

/-- Nothing in a plain value is overridden by a later member of the same name. -/
theorem Plain.settled_eq (h : value.Plain depth) : value.settled = value := by
  induction h with
  | null | bool | integer | string => rfl
  | array _ ih => rw [settled, settledItems_of_forall ih]
  | object hnames _ ih => rw [settled, settledMembers_of_forall hnames ih]

mutual

def written : Json → Written
  | .array items => .array (writtenItems items)
  | .object members => .object (writtenMembers members)
  | value => .scalar (some value)

def writtenItems : List Json → List Written
  | [] => []
  | item :: rest => item.written :: writtenItems rest

def writtenMembers : List (String × Json) → List (Option String × Written)
  | [] => []
  | (name, value) :: rest => (some name, value.written) :: writtenMembers rest

end

theorem values?_writtenItems {items : List Json} (h : ∀ item ∈ items, item.written.value? depth = some item) :
    Written.values? depth (writtenItems items) = some items := by
  induction items with
  | nil => rfl
  | cons item rest ih =>
    rw [writtenItems, Written.values?, h item List.mem_cons_self,
      ih fun other hother => h other (List.mem_cons_of_mem item hother)]
    rfl

theorem members?_writtenMembers {members : List (String × Json)}
    (h : ∀ member ∈ members, member.2.written.value? depth = some member.2) :
    Written.members? depth (writtenMembers members) = some members := by
  induction members with
  | nil => rfl
  | cons member rest ih =>
    obtain ⟨name, value⟩ := member
    have hvalue : value.written.value? depth = some value := h (name, value) List.mem_cons_self
    rw [writtenMembers, Written.members?, hvalue, ih fun other hother => h other (List.mem_cons_of_mem _ hother)]
    rfl

theorem Plain.value?_written (h : value.Plain depth) : value.written.value? depth = some value := by
  induction h with
  | null | bool | integer | string => rfl
  | array _ ih => rw [written, Written.value?, values?_writtenItems ih]; rfl
  | object _ _ ih => rw [written, Written.value?, members?_writtenMembers ih]; rfl

section Building
variable {α : Type} {name : String} {names : List String} {members : List (String × Json)}

@[simp] theorem plain_bool (value : Bool) : Plain depth (.bool value) := .bool

@[simp] theorem plain_string (s : String) : Plain depth (.string s) := .string

@[simp] theorem plain_int32 (n : Int32) : Plain depth (.integer n.toInt) :=
  .integer (by have := n.le_toInt; omega) (by have := n.toInt_lt; omega)

theorem plain_nat {n : Nat} (h : n < 2 ^ 64) : Plain depth (.nat n) := .integer (by omega) (by omega)

@[simp] theorem plain_uint8 (n : UInt8) : Plain depth (.nat n.toNat) := plain_nat (by have := n.toNat_lt; omega)

@[simp] theorem plain_uint16 (n : UInt16) : Plain depth (.nat n.toNat) := plain_nat (by have := n.toNat_lt; omega)

@[simp] theorem plain_uint32 (n : UInt32) : Plain depth (.nat n.toNat) := plain_nat (by have := n.toNat_lt; omega)

@[simp] theorem plain_option {f : α → Json} (hf : ∀ x, (f x).Plain depth) (o : Option α) :
    (option f o).Plain depth := by
  cases o with
  | none => exact .null
  | some x => exact hf x

@[simp] theorem plain_list {f : α → Json} (hf : ∀ x, (f x).Plain depth) (items : List α) :
    (list f items).Plain (depth + 1) :=
  .array fun item hitem => by
    obtain ⟨x, _, rfl⟩ := List.mem_map.1 hitem
    exact hf x

@[simp] theorem plain_strings (items : List String) : (strings items).Plain (depth + 1) := plain_list plain_string items

@[simp] theorem plain_table {f : α → Json} (hf : ∀ x, (f x).Plain depth) (t : Table α) :
    (Json.object (t.map f).entries).Plain (depth + 1) := by
  refine .object ?_ fun member hmember => ?_
  · have hordered : ((t.map f).entries.map (·.1)).Pairwise (· < ·) := List.pairwise_map.2 (t.map f).ordered
    exact hordered.imp String.ne_of_lt
  · obtain ⟨entry, _, rfl⟩ := List.mem_map.1 hmember
    exact hf entry.2

/-- Members with names from a list, in its order, and with plain values. -/
structure PlainMembers (depth : Nat) (names : List String) (members : List (String × Json)) : Prop where
  names : (members.map (·.1)).Sublist names
  values : ∀ member ∈ members, member.2.Plain depth

theorem PlainMembers.nil : PlainMembers depth [] [] := ⟨List.Sublist.refl _, nofun⟩

theorem PlainMembers.cons (hvalue : value.Plain depth) (h : PlainMembers depth names members) :
    PlainMembers depth (name :: names) ((name, value) :: members) :=
  ⟨h.names.cons_cons name, List.forall_mem_cons.2 ⟨hvalue, h.values⟩⟩

theorem PlainMembers.member? {f : α → Json} (hf : ∀ x, (f x).Plain depth) (o : Option α) :
    PlainMembers depth [name] (Json.member? name f o) := by
  cases o with
  | none => exact ⟨List.nil_sublist _, nofun⟩
  | some x => exact .cons (hf x) .nil

theorem PlainMembers.append {names' : List String} {members' : List (String × Json)}
    (h : PlainMembers depth names members) (h' : PlainMembers depth names' members') :
    PlainMembers depth (names ++ names') (members ++ members') := by
  refine ⟨?_, fun member hmember => (List.mem_append.1 hmember).elim (h.values member) (h'.values member)⟩
  rw [List.map_append]
  exact h.names.append h'.names

theorem PlainMembers.object (h : PlainMembers depth names members) (hnames : names.Nodup) :
    (Json.object members).Plain (depth + 1) :=
  .object (h.names.nodup hnames) h.values

end Building
end IngressPlane.Json
