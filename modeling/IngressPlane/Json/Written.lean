import IngressPlane.Json.Basic

/-!
JSON as it is written. A numeral or a string in it may stand for no value: the numeral for want of
a double that large, the string because half of a surrogate pair is no character. Only what is read
has to have a value.
-/
namespace IngressPlane.Json

inductive Written
  | scalar (value : Option Json)
  | array (items : List Written)
  | object (members : List (Option String × Written))
  deriving Inhabited

namespace Written

mutual

/-- The value, if all of its parts have one and at most `depth` containers are inside one another. -/
def value? (depth : Nat) : Written → Option Json
  | .scalar value => value
  | .array items =>
    match depth with
    | 0 => none
    | depth + 1 => (values? depth items).map .array
  | .object ms =>
    match depth with
    | 0 => none
    | depth + 1 => (members? depth ms).map .object

def values? (depth : Nat) : List Written → Option (List Json)
  | [] => some []
  | item :: rest => do return (← item.value? depth) :: (← values? depth rest)

def members? (depth : Nat) : List (Option String × Written) → Option (List (String × Json))
  | [] => some []
  | (name, item) :: rest => do return (← name, ← item.value? depth) :: (← members? depth rest)

end

end Written
end IngressPlane.Json
