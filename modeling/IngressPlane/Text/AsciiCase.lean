/-!
Letter case within ASCII. All other characters stay as they are and equal only themselves.
-/
namespace IngressPlane.Text

def asciiUpper (s : String) : String := String.ofList (s.toList.map Char.toUpper)

def sameIgnoringAsciiCase (a b : String) : Bool :=
  a.toList.map Char.toLower == b.toList.map Char.toLower

end IngressPlane.Text
