import IngressPlane.Text.Utf8

/-!
Text as a shell sees it: a row of bytes. Each byte is held as the character of that number, so that
bytes which are no UTF-8 are kept as they are.
-/
namespace IngressPlane.Shell

def ofBytes (bytes : List UInt8) : String := String.ofList (bytes.map fun b => Char.ofNat b.toNat)

def toBytes (octets : String) : List UInt8 := octets.toList.map fun c => UInt8.ofNat c.toNat

def ofText (s : String) : String := ofBytes (Text.utf8Bytes s)

def linesEnding (ending : Char) (octets : String) : List String :=
  let lines := octets.toList.foldr (fun c lines =>
    match lines with
    | [] => if c = ending then [[], []] else [[c]]
    | line :: rest => if c = ending then [] :: line :: rest else (c :: line) :: rest) []
  (if lines.getLast? = some [] then lines.dropLast else lines).map String.ofList

def linesOf (octets : String) : List String := linesEnding '\n' octets

def unlines (lines : List String) : String := String.join (lines.map (· ++ "\n"))

def dropTrailingNewlines (octets : String) : String :=
  String.ofList (octets.toList.reverse.dropWhile (· = '\n')).reverse

def isSpace (c : Char) : Bool := c = ' ' || ('\t' ≤ c && c ≤ '\r')

def isNameStart (c : Char) : Bool := c.isAlpha || c = '_'

def isNameChar (c : Char) : Bool := c.isAlphanum || c = '_'

def isName (s : String) : Bool :=
  match s.toList with
  | [] => false
  | c :: rest => isNameStart c && rest.all isNameChar

end IngressPlane.Shell
