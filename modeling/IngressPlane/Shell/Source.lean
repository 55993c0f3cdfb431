import IngressPlane.Shell.Octets
import IngressPlane.Shell.Syntax

/-!
The text of a script while it is being read, and the characters and signs that it is made of.
-/
namespace IngressPlane.Shell

structure Pending where
  number : Nat
  mark : List Char
  dropTabs : Bool
  /-- Set where expansions in the text stand for themselves. -/
  literal : Bool

structure Source where
  rest : List Char
  line : Nat := 1
  /-- A token that is to be read once more. -/
  pushed : Option Token := none
  pending : List Pending := []
  /-- The documents that have been read so far. -/
  documents : Array Word := #[]

structure SyntaxError where
  line : Nat
  reason : String

abbrev Parse := StateT Source (Except SyntaxError)

namespace Parse

def fail {α : Type} (reason : String) : Parse α := fun s => .error ⟨s.line, reason⟩

def unexpected {α : Type} (found : Token) (expecting : Option Token) : Parse α :=
  fail (found.name ++ " unexpected"
    ++ (expecting.map fun token => " (expecting " ++ token.name ++ ")").getD "")

def push (token : Token) : Parse Unit := modify fun s => { s with pushed := some token }

def rest : Parse (List Char) := return (← get).rest

def pass (passed after : List Char) : Parse Unit := modify fun s =>
  { s with rest := after, line := s.line + passed.count '\n' }

/-- Passes over characters in whose place nothing counts as a line. -/
def goTo (after : List Char) : Parse Unit := modify fun s => { s with rest := after }

/-- Collects what the steps from a state on yield, up to one after which there is no other state. Each
step takes something from the text, or gives a token back. -/
def unfold {σ α : Type} (step : σ → Parse (List α × Option σ)) (start : σ) : Parse (List α) := do
  go ((← rest).length + 2) start
where
  go : Nat → σ → Parse (List α)
    | 0, _ => return []
    | fuel + 1, state => do
      let (items, next) ← step state
      match next with
      | none => return items
      | some state => return items ++ (← go fuel state)

def many {α : Type} (step : Parse (Option α)) : Parse (List α) :=
  unfold (fun _ => do
    match ← step with
    | some item => return ([item], some ())
    | none => return ([], none)) ()

/-- Passes over everything, and fails. -/
def failAtEnd {α : Type} (reason : String) : Parse α := do
  pass (← rest) []
  fail reason

end Parse

def backquote : Char := Char.ofNat 96

def isBlankChar (c : Char) : Bool := c = ' ' || c = '\t'

def endsWord (c : Char) : Bool :=
  isBlankChar c || ['\n', ';', '&', '|', '<', '>', '(', ')'].contains c

def isSpecialParameter (c : Char) : Bool :=
  c.isDigit || ['@', '*', '#', '?', '$', '!', '-'].contains c

def operator? : List Char → Option (Operator × List Char)
  | ';' :: ';' :: rest => some (.endArm, rest)
  | ';' :: rest => some (.semicolon, rest)
  | '&' :: '&' :: rest => some (.and, rest)
  | '&' :: rest => some (.background, rest)
  | '|' :: '|' :: rest => some (.or, rest)
  | '|' :: rest => some (.pipe, rest)
  | '(' :: rest => some (.openBracket, rest)
  | ')' :: rest => some (.closeBracket, rest)
  | _ => none

def redirector? : List Char → Option (Redirector × Nat × List Char)
  | '<' :: '<' :: '-' :: rest => some (.document true, 0, rest)
  | '<' :: '<' :: rest => some (.document false, 0, rest)
  | '<' :: '&' :: rest => some (.copy, 0, rest)
  | '<' :: '>' :: rest => some (.file .both, 0, rest)
  | '<' :: rest => some (.file .input, 0, rest)
  | '>' :: '>' :: rest => some (.file .append, 1, rest)
  | '>' :: '&' :: rest => some (.copy, 1, rest)
  | '>' :: '|' :: rest => some (.file (.output true), 1, rest)
  | '>' :: rest => some (.file (.output false), 1, rest)
  | _ => none

/-- A redirection sign, with the single digit of a descriptor in front or without. -/
def redirection? (cs : List Char) : Option (Token × List Char) :=
  match redirector? cs with
  | some (redirector, descriptor, rest) => some (.redirection descriptor redirector, rest)
  | none =>
    match cs with
    | d :: rest =>
      if d.isDigit then
        (redirector? rest).map fun (redirector, _, rest) =>
          (.redirection (d.toNat - '0'.toNat) redirector, rest)
      else none
    | [] => none

/-- Passes over blanks, comments and line ends after a backslash; these are counted. -/
def skipBlanks : List Char → Nat × List Char
  | '\\' :: '\n' :: rest => let (n, rest) := skipBlanks rest; (n + 1, rest)
  | c :: rest => if isBlankChar c then skipBlanks rest else (0, c :: rest)
  | [] => (0, [])

def skipComment : List Char → List Char
  | '#' :: rest => rest.dropWhile (· ≠ '\n')
  | cs => cs

/-- The text of a document up to its mark, how many lines it takes with the mark, and what follows. -/
def documentText (p : Pending) : Nat → List Char → List Char × Nat × List Char
  | 0, cs => ([], 0, cs)
  | _, [] => ([], 0, [])
  | fuel + 1, cs =>
    let line := cs.takeWhile (· ≠ '\n')
    let ending := (cs.drop line.length).take 1
    let after := cs.drop (line.length + 1)
    let shown := if p.dropTabs then line.dropWhile (· = '\t') else line
    if shown = p.mark then ([], 1, after)
    else
      let (text, lines, after) := documentText p fuel after
      (shown ++ ending ++ text, lines + ending.length, after)

def backquoted? (quoted : Bool) : List Char → Option (List Char × List Char)
  | [] => none
  | '\\' :: '\n' :: rest => backquoted? quoted rest
  | '\\' :: d :: rest =>
    (backquoted? quoted rest).map fun (script, after) =>
      (if d = '\\' || d = backquote || d = '$' || (quoted && d = '"') then d :: script
        else '\\' :: d :: script, after)
  | c :: rest =>
    if c = backquote then some ([], rest)
    else (backquoted? quoted rest).map fun (script, after) => (c :: script, after)

/-- The text of a word after its quotes are removed, and whether there were any. -/
def unquotedMark (w : Word) : List Char × Bool :=
  (w.flatMap fun | .text chars _ => chars | _ => [],
   w.any fun | .text _ quoted => quoted | _ => false)

def assignment? : Word → Option (String × Word)
  | .text chars false :: rest =>
    match chars.span (· ≠ '=') with
    | (name, '=' :: value) =>
      let name := String.ofList name
      if isName name then some (name, if value.isEmpty then rest else .text value false :: rest)
      else none
    | _ => none
  | _ => none

end IngressPlane.Shell
