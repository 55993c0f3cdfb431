import IngressPlane.Table
import IngressPlane.Text.Decimal
import IngressPlane.Text.Quoted
import IngressPlane.Text.Search

/-!
Typed reading of the annotations under one key prefix.
-/
namespace IngressPlane

open Text

inductive ReadFailure
  | missing
  | invalid (key value : String)
  | inconsistent (name reason : String)
  /-- Requests have to be refused, rather than served without the policy. -/
  | denied (reason : String)
  deriving DecidableEq

def ReadFailure.message : ReadFailure → String
  | .missing => "ingress rule without annotations"
  | .invalid key value => "annotation " ++ key ++ " contains invalid value " ++ quoted value
  | .inconsistent name reason => "invalid " ++ name ++ " configuration: " ++ reason
  | .denied reason => "location denied, reason: " ++ reason

def boolean? (s : String) : Option Bool :=
  if ["1", "t", "T", "true", "TRUE", "True"].contains s then some true
  else if ["0", "f", "F", "false", "FALSE", "False"].contains s then some false
  else none

structure AnnotationReader where
  root : String
  annotations : Option (Table String)

namespace AnnotationReader

variable (r : AnnotationReader)

def key (name : String) : String := r.root ++ "/" ++ name

def value (name : String) : Except ReadFailure String :=
  match r.annotations.bind (·.get? (r.key name)) with
  | some v => .ok v
  | none => .error .missing

def string (name : String) : Except ReadFailure String :=
  match r.value name with
  | .ok v => if v = "" then .error (.invalid (r.key name) v) else .ok v
  | .error e => .error e

/-- Reads a value by a function that says which values are valid. -/
def readAs {α : Type} (read : String → Option α) (name : String) : Except ReadFailure α :=
  match r.value name with
  | .ok v =>
    match read v with
    | some result => .ok result
    | none => .error (.invalid (r.key name) v)
  | .error e => .error e

def bool (name : String) : Except ReadFailure Bool := r.readAs boolean? name

def int (name : String) : Except ReadFailure Int32 := r.readAs int32? name

def list (name : String) : Except ReadFailure (List String) := listItems <$> r.string name

def stringOr (name fallback : String) : String := (r.string name).toOption.getD fallback

def boolOr (name : String) (fallback : Bool) : Bool := (r.bool name).toOption.getD fallback

def intOr (name : String) (fallback : Int32) : Int32 := (r.int name).toOption.getD fallback

end AnnotationReader
end IngressPlane
