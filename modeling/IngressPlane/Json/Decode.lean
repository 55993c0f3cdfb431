import IngressPlane.Json.Basic
import IngressPlane.Table

/-!
Reading typed values out of JSON values. A member that is missing and one that is `null` are both
unset; of repeated members the last one counts, but each has to be readable.
-/
namespace IngressPlane.Json

inductive Mismatch
  | expected (what : String)
  | missing (member : String)
  | repeated (member : String)

def Mismatch.message : Mismatch → String
  | .expected what => "expected " ++ what
  | .missing member => "missing member " ++ member
  | .repeated member => "repeated member " ++ member

abbrev Decoder (α : Type) := Json → Except Mismatch α

namespace Decoder

variable {α : Type}

def string : Decoder String
  | .string s => .ok s
  | _ => .error (.expected "a string")

def bool : Decoder Bool
  | .bool b => .ok b
  | _ => .error (.expected "a boolean")

def bounded (low high : Int) : Decoder Int
  | .integer n => if low ≤ n ∧ n ≤ high then .ok n else .error (.expected "an integer in range")
  | _ => .error (.expected "an integer")

def int32 : Decoder Int32 := fun value => Int32.ofInt <$> bounded (-2147483648) 2147483647 value

def int64 : Decoder Int :=
  bounded (-9223372036854775808) 9223372036854775807

def uint16 : Decoder UInt16 := fun value => (UInt16.ofNat ∘ Int.toNat) <$> bounded 0 65535 value

def uint32 : Decoder UInt32 := fun value => (UInt32.ofNat ∘ Int.toNat) <$> bounded 0 4294967295 value

def list (item : Decoder α) : Decoder (List α)
  | .array items => items.mapM item
  | _ => .error (.expected "an array")

def table (value : Decoder α) : Decoder (Table α)
  | .object members => do
    let entries ← members.mapM fun (name, member) => return (name, ← value member)
    return Table.ofList entries
  | _ => .error (.expected "an object")

def nullable (value : Decoder α) : Decoder (Option α)
  | .null => .ok none
  | json => some <$> value json

def members : Decoder (List (String × Json))
  | .object members => .ok members
  | _ => .error (.expected "an object")

end Decoder

/-- The value of the last member of that name. -/
def find? (members : List (String × Json)) (name : String) : Option Json :=
  (members.reverse.find? (·.1 = name)).map (·.2)

def optional {α : Type} (members : List (String × Json)) (name : String) (value : Decoder α) :
    Except Mismatch (Option α) := do
  let found ← (members.filter (·.1 = name)).mapM fun (_, member) => Decoder.nullable value member
  return found.getLast?.join

def orElse {α : Type} (members : List (String × Json)) (name : String) (value : Decoder α)
    (fallback : α) : Except Mismatch α :=
  (·.getD fallback) <$> optional members name value

def required {α : Type} (members : List (String × Json)) (name : String) (value : Decoder α) :
    Except Mismatch α :=
  match find? members name with
  | none => .error (.missing name)
  | some member => value member

end IngressPlane.Json
