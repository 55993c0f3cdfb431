import IngressPlane.Certificate.Der
import IngressPlane.Text.Utf8

/-!
Distinguished names: sequences of sets of attributes.
-/
namespace IngressPlane.DistinguishedName

open Der

structure Attribute where
  kind : List UInt8
  tag : Nat
  contents : List UInt8
  deriving DecidableEq

def Attribute.field : Fields Attribute := inSequence do
  let kind ← objectId
  let value ← element
  return ⟨kind, value.tag, value.contents⟩

/-- The attributes of a set, up to the first that cannot be read; there has to be one. -/
def attributes : Fields (List Attribute) := do
  let (found, _) := many Attribute.field (← tagged 17).contents
  guard (!found.isEmpty)
  return found

/-- The attributes of the sets, up to the first that cannot be read. -/
def name : Fields (List Attribute) := do
  let (found, _) := many attributes (← tagged 16).contents
  return found.flatten

def commonNameKind : List UInt8 := [0x55, 0x04, 0x03]

/-- The first common name, if it is a numeric, printable, UTF-8 or IA5 string. -/
def commonName (subject : List Attribute) : String :=
  match subject.find? (·.kind = commonNameKind) with
  | none => ""
  | some a =>
    if a.tag = 12 || a.tag = 18 || a.tag = 19 || a.tag = 22 then
      (Text.decodeUtf8? a.contents).getD ""
    else ""

end IngressPlane.DistinguishedName
