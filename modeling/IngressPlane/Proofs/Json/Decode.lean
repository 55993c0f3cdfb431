import IngressPlane.Json.Decode
import IngressPlane.Proofs.Results

/-! Members that are read back. A decoder that reads what was written, and does not take it for an unset value,
finds a member that may be left out again (`optional_eq_ok`). -/
namespace IngressPlane.Json

open Decoder

variable {α : Type} {f : α → Json} {value : Decoder α} {name : String} {ms : List (String × Json)}

/-- Whether all that is written so is read back, and nothing of it is `null`. -/
structure ReadsBack (f : α → Json) (value : Decoder α) : Prop where
  read : ∀ x, value (f x) = .ok x
  set : ∀ x, f x ≠ .null

theorem readsBack_string : ReadsBack .string Decoder.string := ⟨fun _ => rfl, nofun⟩

theorem readsBack_int32 : ReadsBack (fun n : Int32 => .integer n.toInt) int32 where
  read n := by
    have hrange : -2147483648 ≤ n.toInt ∧ n.toInt ≤ 2147483647 := by
      have hlow := n.le_toInt
      have hhigh := n.toInt_lt
      omega
    have hbounded : bounded (-2147483648) 2147483647 (.integer n.toInt) = .ok n.toInt := if_pos hrange
    rw [int32, hbounded]
    exact congrArg Except.ok (Int32.ofInt_toInt n)
  set := nofun

theorem ReadsBack.list (h : ReadsBack f value) : ReadsBack (Json.list f) (Decoder.list value) where
  read xs := by
    have hitems : (xs.map f).mapM value = .ok xs := by
      induction xs with
      | nil => rfl
      | cons x xs ih => rw [List.map_cons, List.mapM_cons, h.read, ih]; rfl
    exact hitems
  set := nofun

theorem ReadsBack.nullable (h : ReadsBack f value) (x : α) : Decoder.nullable value (f x) = .ok (some x) := by
  unfold Decoder.nullable
  split
  next hnull => exact (h.set x hnull).elim
  next => rw [h.read]; rfl

theorem readsBack_strings : ReadsBack strings (Decoder.list Decoder.string) := readsBack_string.list

@[simp] theorem filter_member? (other : String) (f : α → Json) (o : Option α) :
    (member? other f o).filter (·.1 = name) = if other = name then member? other f o else [] := by
  cases o with
  | none => simp [member?]
  | some x => by_cases h : other = name <;> simp [member?, h]

theorem optional_eq_ok (h : ReadsBack f value) {o : Option α} (hms : ms.filter (·.1 = name) = member? name f o) :
    optional ms name value = .ok o := by
  unfold optional
  rw [hms]
  cases o with
  | none => rfl
  | some x =>
    simp only [member?, List.mapM_cons, h.nullable]
    rfl

theorem orElse_eq_ok (h : ReadsBack f value) {x fallback : α} (hms : ms.filter (·.1 = name) = [(name, f x)]) :
    orElse ms name value fallback = .ok x := by
  have hoptional : optional ms name value = .ok (some x) := optional_eq_ok h hms
  rw [orElse, hoptional]
  rfl

end IngressPlane.Json
