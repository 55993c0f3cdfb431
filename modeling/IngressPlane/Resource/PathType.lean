import IngressPlane.Json.Basic
import IngressPlane.Text.Quoted

/-!
How the path of a rule is matched.
-/
namespace IngressPlane

inductive PathType
  | exact
  | under
  | implementationSpecific
  deriving DecidableEq, Inhabited

structure InvalidPathType where
  text : String

def InvalidPathType.message (e : InvalidPathType) : String :=
  "invalid path type: " ++ Text.quoted e.text

namespace PathType

def text : PathType → String
  | .exact => "Exact"
  | .under => "Prefix"
  | .implementationSpecific => "ImplementationSpecific"

def read (s : String) : Except InvalidPathType PathType :=
  if s = "Exact" then .ok .exact
  else if s = "Prefix" then .ok .under
  else if s = "ImplementationSpecific" then .ok .implementationSpecific
  else .error ⟨s⟩

def toJson (t : PathType) : Json := .string t.text

/-- The type under which a path is routed: anything but `Exact` matches what lies under it. -/
def effective (s : String) : PathType :=
  match read s with
  | .ok .exact => .exact
  | _ => .under

/-- The text of a path type after admission: `Exact` and `Prefix` stay, all else is `Prefix`. -/
def normalized (s : String) : String :=
  match read s with
  | .ok .exact => s
  | .ok .under => s
  | _ => PathType.under.text

end PathType
end IngressPlane
