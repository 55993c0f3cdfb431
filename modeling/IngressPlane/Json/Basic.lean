/-!
JSON values. An object keeps its members in the order in which they were written, repeated names
included. A number is an integer of at most 64 bits, or a decimal `mantissa · 10 ^ exponent`.
-/
namespace IngressPlane

inductive Json
  | null
  | bool (value : Bool)
  | integer (value : Int)
  | real (mantissa exponent : Int)
  | string (value : String)
  | array (items : List Json)
  | object (members : List (String × Json))
  deriving Inhabited

namespace Json

def nat (n : Nat) : Json := .integer n

def option {α : Type} (f : α → Json) : Option α → Json
  | none => .null
  | some value => f value

def list {α : Type} (f : α → Json) (items : List α) : Json := .array (items.map f)

def strings (items : List String) : Json := list .string items

/-- A member that is left out when its value is unset. -/
def member? {α : Type} (name : String) (f : α → Json) : Option α → List (String × Json)
  | none => []
  | some value => [(name, f value)]

def isObject : Json → Bool
  | .object _ => true
  | _ => false

mutual

/-- The value in which, at every level, only the last of repeated members is left. -/
def settled : Json → Json
  | .array items => .array (settledItems items)
  | .object members => .object (settledMembers members)
  | value => value

def settledItems : List Json → List Json
  | [] => []
  | item :: rest => item.settled :: settledItems rest

def settledMembers : List (String × Json) → List (String × Json)
  | [] => []
  | (name, value) :: rest =>
    if rest.any (·.1 = name) then settledMembers rest
    else (name, value.settled) :: settledMembers rest

end

end Json
end IngressPlane
