import IngressPlane.Json.Written

/-!
Views: the parts of a document that its reader looks at. What a view leaves out only has to be
well-formed.
-/
namespace IngressPlane.Json

/-- Takes what it looks at from a value inside of which there may be so many containers. -/
abbrev View := Nat → Written → Option Json

namespace View

def whole : View := Written.value?

def each (item : View) : View
  | depth + 1, .array items => (items.mapM (item depth)).map .array
  | depth, w => w.value? depth

/-- Looks at the members of these names; any other member is looked at by `others`, or left out.
The members may also be items of an array, in this order. -/
def fields (named : List (String × View)) (others : Option View) : View
  | depth + 1, .object ms => do
    let found ← ms.mapM fun (name, w) => do
      let name ← name
      match (named.lookup name).orElse fun _ => others with
      | some view => return some (name, ← view depth w)
      | none => return none
    return .object (found.filterMap id)
  | depth + 1, .array items => do
    let views := named.map (·.2) ++ List.replicate (items.length - named.length) whole
    return .array (← (views.zip items).mapM fun (view, w) => view depth w)
  | depth, w => w.value? depth

def only (named : List (String × View)) : View := fields named none

/-- Looks at the members that are not named as a whole. -/
def besides (named : List (String × View)) : View := fields named (some whole)

def names (ns : List String) : List (String × View) := ns.map (·, whole)

end View
end IngressPlane.Json
