import IngressPlane.Certificate.DistinguishedName
import IngressPlane.Net.Address

/-!
The alternative names of a certificate's subject.
-/
namespace IngressPlane

open Text (decodeUtf8?)

inductive GeneralName
  | dns (name : String)
  | address (bytes : List UInt8)
  | other
  deriving DecidableEq

namespace GeneralName

/-- The tag tells the kind of a name. Text has to be UTF-8, and a directory name a whole
distinguished name. -/
def ofDer? (d : Der) : Option GeneralName := do
  guard (d.tagClass = 2)
  match d.tag with
  | 0 =>
    let _ ← Der.objectId.run d.contents
    return .other
  | 2 => return .dns (← decodeUtf8? d.contents)
  | 4 =>
    let (_, rest) ← DistinguishedName.name.run d.contents
    guard rest.isEmpty
    return .other
  | 7 => return .address d.contents
  | tag =>
    if tag = 1 || tag = 6 then
      let _ ← decodeUtf8? d.contents
      return .other
    guard (tag ≤ 8)
    return .other

/-- Reads a sequence of names. What follows it is not looked at. -/
def list? (value : List UInt8) : Option (List GeneralName) := do
  let (d, _) ← (Der.tagged 16).run value
  (← Der.all? Der.element d.contents).mapM ofDer?

def dns? : GeneralName → Option String
  | .dns name => some name
  | _ => none

def address? : GeneralName → Option Address
  | .address bytes => Address.ofBytes? bytes
  | _ => none

end GeneralName
end IngressPlane
