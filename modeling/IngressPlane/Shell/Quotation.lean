import IngressPlane.Text.Search

/-!
How programs quote the words of a call in what they say: plainly between quotes, or so that a shell
would read the same word.
-/
namespace IngressPlane.Shell

def escapeLetters : List (Char × Char) := [
  ('\n', 'n'), ('\t', 't'), ('\r', 'r'), ('\x07', 'a'), ('\x08', 'b'), ('\x0b', 'v'), ('\x0c', 'f')]

def isShown (c : Char) : Bool := ' ' ≤ c && c ≤ '~'

def escapedOctet (c : Char) : List Char :=
  match escapeLetters.lookup c with
  | some letter => ['\\', letter]
  | none =>
    let digits := Nat.toDigits 8 c.toNat
    '\\' :: List.replicate (3 - digits.length) '0' ++ digits

/-- A word in quotes, in which a backslash stands before a quote and before itself. -/
def inQuotes (word : String) : String :=
  "'" ++ String.ofList (word.toList.flatMap fun c =>
    if c = '\'' || c = '\\' then ['\\', c] else if isShown c then [c] else escapedOctet c) ++ "'"

/-- The inside of a word between single quotes. Octets that cannot be shown stand in quotes of their
own, and `escaping` says whether those are open. -/
def quotedInside : (escaping : Bool) → List Char → List Char
  | _, [] => []
  | escaping, c :: rest =>
    if c = '\'' then ['\'', '\\', '\'', '\''] ++ quotedInside false rest
    else if isShown c then (if escaping then ['\'', '\''] else []) ++ c :: quotedInside false rest
    else (if escaping then [] else ['\'', '$', '\'']) ++ escapedOctet c ++ quotedInside true rest

def isSpecialSign (c : Char) : Bool :=
  ['!', '"', '$', '&', '(', ')', '*', ';', '<', '=', '>', '[', '^', '|', '\\', '?', Char.ofNat 96].contains c

/-- A word as a shell would have to be given it, always in quotes. -/
def shellQuoted (word : String) : String :=
  let cs := word.toList
  if cs.contains '\'' && cs.all (fun c => isShown c && !isSpecialSign c) then "\"" ++ word ++ "\""
  else "'" ++ String.ofList (quotedInside false cs) ++ "'"

def shellWord (word : String) : String :=
  let cs := word.toList
  let startsSpecially := ['#', '~'].contains (cs.headD ' ') || ["\x7b", "\x7d"].contains word
  if cs.isEmpty || startsSpecially || cs.any fun c => !isShown c || c = ' ' || c = '\'' || isSpecialSign c
  then shellQuoted word else word

end IngressPlane.Shell
