import IngressPlane.Text.Search
import IngressPlane.Text.Utf8

/-!
Absolute URIs: a scheme, an authority and what follows it, each with the characters that may stand
there unescaped. Text beyond ASCII may follow the authority, but not stand in it.
-/
namespace IngressPlane.Uri

open Text

def maxBytes : Nat := 65534
def maxSchemeLength : Nat := 64

def isSchemeChar (c : Char) : Bool :=
  c.isAlphanum || c = '+' || c = '-' || c = '.' || c = '~'

/-- Splits off a scheme and the `://` after it. A scheme of no characters is one, too. -/
def scheme? (cs : List Char) : Option (List Char × List Char) :=
  let name := cs.takeWhile isSchemeChar
  match cs.dropWhile isSchemeChar with
  | ':' :: '/' :: '/' :: rest => if name.length ≤ maxSchemeLength then some (name, rest) else none
  | _ => none

/-- The characters of an authority that have no meaning of their own. -/
def isAuthorityChar (c : Char) : Bool :=
  c.isAlphanum || ['!', '$', '&', '\'', '(', ')', '*', '+', ',', '-', '.', ';', '=', '_', '~'].contains c

def endsAuthority (c : Char) : Bool := c = '/' || c = '?' || c = '#'

/-- What an authority has shown so far. A part that ends in `@` or `]` is settled: colons and percent
signs before it do not count any more. -/
structure Authority where
  colons : Nat := 0
  percent : Bool := false
  opened : Bool := false
  closed : Bool := false

def Authority.step (a : Authority) (c : Char) : Option Authority :=
  if c = ':' then if 8 ≤ a.colons then none else some { a with colons := a.colons + 1 }
  else if c = '[' then if a.percent || a.opened then none else some { a with opened := true }
  else if c = ']' then
    if !a.opened || a.closed then none
    else some { a with closed := true, colons := 0, percent := false }
  else if c = '@' then some { a with colons := 0, percent := false }
  else if c = '%' then some { a with percent := true }
  else if isAuthorityChar c then some a
  else none

def isAuthority (cs : List Char) : Bool :=
  match cs.foldlM Authority.step {} with
  | none => false
  | some a =>
    a.opened == a.closed && a.colons ≤ 1 && !a.percent && !cs.isEmpty && cs.getLast? ≠ some '@'

def isPathChar (c : Char) : Bool :=
  let n := c.toNat
  n = 0x21 || n = 0x22 || (0x24 ≤ n && n ≤ 0x3B) || n = 0x3D || (0x40 ≤ n && n ≤ 0x5F)
    || (0x61 ≤ n && n ≤ 0x7E) || 0x80 ≤ n

def isQueryChar (c : Char) : Bool :=
  let n := c.toNat
  n = 0x21 || (0x24 ≤ n && n ≤ 0x3B) || n = 0x3D || (0x3F ≤ n && n ≠ 0x7F)

/-- A path, then a query after the first question mark; what follows `#` is not looked at. -/
def isPathAndQuery (cs : List Char) : Bool :=
  let shown := cs.takeWhile (· ≠ '#')
  (shown.takeWhile (· ≠ '?')).all isPathChar
    && ((shown.dropWhile (· ≠ '?')).drop 1).all isQueryChar

def isAbsolute (s : String) : Bool :=
  s.utf8ByteSize ≤ maxBytes &&
    match scheme? s.toList with
    | none => false
    | some (_, rest) =>
      isAuthority (rest.takeWhile (!endsAuthority ·)) && isPathAndQuery (rest.dropWhile (!endsAuthority ·))

def path (s : String) : List Char :=
  let shown (cs : List Char) := cs.takeWhile fun c => c ≠ '?' && c ≠ '#'
  match scheme? s.toList with
  | none => shown s.toList
  | some (_, rest) =>
    let path := shown (rest.dropWhile (!endsAuthority ·))
    if path.isEmpty then ['/'] else path

end IngressPlane.Uri
