import IngressPlane.Shell.Octets
import IngressPlane.Shell.Regex
import IngressPlane.Text.Decimal

/-!
The two notations for regular expressions: in the basic one the operators for groups, counts and
alternatives are written with a backslash, and in the extended one without.
-/
namespace IngressPlane.Shell

inductive Dialect
  | basic
  | extended
  deriving DecidableEq

inductive PatternError
  | unmatchedOpening
  | unmatchedClosing
  | unmatchedBracket
  | emptyBracket
  | unmatchedCount
  | badCount
  | badClass
  | badCollation
  | bareClass
  | badRange
  | badReference
  | trailingBackslash
  | tooBig
  deriving DecidableEq

def PatternError.message : PatternError → String
  | .unmatchedOpening => "Unmatched ( or \\("
  | .unmatchedClosing => "Unmatched ) or \\)"
  | .unmatchedBracket => "Unmatched [, [^, [:, [., or [="
  | .emptyBracket => "Invalid regular expression"
  | .unmatchedCount => "Unmatched \\\x7b"
  | .badCount => "Invalid content of \\\x7b\\\x7d"
  | .badClass => "Invalid character class name"
  | .badCollation => "Invalid collation character"
  | .bareClass => "character class syntax is [[:space:]], not [:space:]"
  | .badRange => "Invalid range end"
  | .badReference => "Invalid back reference"
  | .trailingBackslash => "Trailing backslash"
  | .tooBig => "Regular expression too big"

/-! ## Brackets -/

def classNames : List (String × List (Char × Char)) := [
  ("alpha", [('a', 'z'), ('A', 'Z')]), ("digit", [('0', '9')]),
  ("alnum", [('a', 'z'), ('A', 'Z'), ('0', '9')]), ("upper", [('A', 'Z')]), ("lower", [('a', 'z')]),
  ("space", [(' ', ' '), ('\t', '\r')]), ("blank", [(' ', ' '), ('\t', '\t')]),
  ("xdigit", [('0', '9'), ('a', 'f'), ('A', 'F')]), ("print", [(' ', '~')]), ("graph", [('!', '~')]),
  ("cntrl", [('\x00', '\x1f'), ('\x7f', '\x7f')]),
  ("punct", [('!', '/'), (':', '@'), ('[', (Char.ofNat 96)), ('\x7b', '~')])]

inductive BracketElement
  | char (c : Char)
  | chars (ranges : List (Char × Char))

def delimited? (sign : Char) : List Char → Option (List Char × List Char)
  | [] => none
  | c :: rest =>
    if c = sign && rest.head? = some ']' then some ([], rest.drop 1)
    else (delimited? sign rest).map fun (inside, after) => (c :: inside, after)

def bracketElement : List Char → Except PatternError (BracketElement × List Char)
  | [] => .error .unmatchedBracket
  | '[' :: ':' :: rest =>
    match delimited? ':' rest with
    | none => .error .unmatchedBracket
    | some (name, rest) =>
      match classNames.lookup (String.ofList name) with
      | some ranges => .ok (.chars ranges, rest)
      | none => .error .badClass
  | '[' :: '.' :: rest =>
    match delimited? '.' rest with
    | none => .error .unmatchedBracket
    | some ([c], rest) => .ok (.char c, rest)
    | some _ => .error .badCollation
  | '[' :: '=' :: rest =>
    match delimited? '=' rest with
    | none => .error .unmatchedBracket
    | some ([c], rest) => .ok (.chars [(c, c)], rest)
    | some _ => .error .badCollation
  | c :: rest => .ok (.char c, rest)

def BracketElement.ranges : BracketElement → List (Char × Char)
  | .char c => [(c, c)]
  | .chars ranges => ranges

/-- The rest of a bracket expression, after the ranges that have been read. A hyphen stands for itself
only at the start, at the end, and at the end of a range. -/
def bracketRanges : Nat → (isFirst : Bool) → List (Char × Char) → List Char →
    Except PatternError (List (Char × Char) × List Char)
  | 0, _, _, _ => .error .unmatchedBracket
  | _, _, _, [] => .error .unmatchedBracket
  | fuel + 1, isFirst, ranges, c :: rest => do
    if c = ']' && !isFirst then return (ranges, rest)
    if c = '-' && !isFirst && rest.head? ≠ some ']' then throw .badRange
    let (low, rest) ← bracketElement (c :: rest)
    match rest with
    | ['-'] => throw .unmatchedBracket
    | '-' :: ']' :: _ => bracketRanges fuel false (ranges ++ low.ranges) rest
    | '-' :: rest =>
      let (high, rest) ← bracketElement rest
      match low, high with
      | .char low, .char high =>
        if high < low then throw .badRange
        bracketRanges fuel false (ranges ++ [(low, high)]) rest
      | _, _ => throw .badRange
    | _ => bracketRanges fuel false (ranges ++ low.ranges) rest

/-- Whether a bracket expression looks like a class of characters outside of brackets. -/
def isBareClass (ranges : List (Char × Char)) : Bool :=
  2 < ranges.length && ranges.head? = some (':', ':') && ranges.getLast? = some (':', ':')

def bracket? (cs : List Char) : Except PatternError (CharClass × List Char) := do
  let (negated, cs) := match cs with
    | '^' :: rest => (true, rest)
    | cs => (false, cs)
  if cs.isEmpty then .error .emptyBracket
  let (ranges, rest) ← bracketRanges (cs.length + 1) true [] cs
  return (⟨negated, ranges, false⟩, rest)

/-! ## Signs -/

inductive Sign
  | char (c : Char)
  | operator (c : Char)
  /-- A set of characters, or a place, that a backslash and a letter name. -/
  | known (r : Regex)
  | back (number : Nat)

def wordRanges : List (Char × Char) := [('a', 'z'), ('A', 'Z'), ('0', '9'), ('_', '_')]

def spaceRanges : List (Char × Char) := [(' ', ' '), ('\t', '\r')]

def letterSign? (c : Char) : Option Regex :=
  if c = 'w' then some (.one ⟨false, wordRanges, false⟩)
  else if c = 'W' then some (.one ⟨true, wordRanges, false⟩)
  else if c = 's' then some (.one ⟨false, spaceRanges, false⟩)
  else if c = 'S' then some (.one ⟨true, spaceRanges, false⟩)
  else if c = 'b' then some (.look .wordEdge)
  else if c = 'B' then some (.look .noWordEdge)
  else if c = '<' then some (.look .wordStart)
  else if c = '>' then some (.look .wordEnd)
  else if c = Char.ofNat 96 then some (.look .start)
  else if c = '\'' then some (.look .finish)
  else none

def sign? (dialect : Dialect) : List Char → Except PatternError (Option (Sign × List Char))
  | [] => .ok none
  | ['\\'] => .error .trailingBackslash
  | '\\' :: c :: rest =>
    if dialect = .basic && ['(', ')', '\x7b', '\x7d', '|', '+', '?'].contains c then
      .ok (some (.operator c, rest))
    else if '1' ≤ c && c ≤ '9' then .ok (some (.back (c.toNat - '0'.toNat), rest))
    else
      match letterSign? c with
      | some r => .ok (some (.known r, rest))
      | none => .ok (some (.char c, rest))
  | c :: rest =>
    let operators := if dialect = .basic then ['.', '[', '*', '^', '$']
      else ['.', '[', '*', '^', '$', '(', ')', '\x7b', '|', '+', '?']
    .ok (some (if operators.contains c then .operator c else .char c, rest))

/-! ## Counts -/

def countLimit : Nat := 32767

def closesLater : List Char → Bool
  | [] => false
  | ',' :: _ => true
  | '\\' :: c :: rest => c = '\x7d' || closesLater rest
  | _ :: rest => closesLater rest

/-- A count of repetitions after its opening brace: its bounds and what follows it. None where the
brace of an extended pattern stands for itself. -/
def count? (dialect : Dialect) (cs : List Char) :
    Except PatternError (Option (Nat × Option Nat × List Char)) :=
  let low := cs.takeWhile Text.isDigit
  let afterLow := cs.drop low.length
  let (high, rest) := match afterLow with
    | ',' :: rest =>
      let digits := rest.takeWhile Text.isDigit
      (if digits.isEmpty then none else some (Text.digitsValue digits), rest.drop digits.length)
    | rest => (some (Text.digitsValue low), rest)
  let close : Option (List Char) := match dialect, rest with
    | .extended, '\x7d' :: rest => some rest
    | .basic, '\\' :: '\x7d' :: rest => some rest
    | _, _ => none
  let least := Text.digitsValue low
  let isEmpty := low.isEmpty && afterLow.head? ≠ some ','
  match close with
  | none =>
    if dialect = .extended then .ok none
    else if closesLater rest then .error .badCount
    else .error .unmatchedCount
  | some rest =>
    if isEmpty then if dialect = .extended then .ok none else .error .badCount
    else if high.any (· < least) then .error .badCount
    else if countLimit < least || high.any (countLimit < ·) then .error .tooBig
    else .ok (some (least, high, rest))

/-! ## Patterns -/

/-- A pattern that is being read: how many groups have been opened, which of them are complete, and
what seems to be a mistake but is none. -/
structure PatternState where
  rest : List Char
  opened : Nat := 0
  closed : List Nat := []
  /-- Set where a class of characters stands outside of brackets. -/
  bareClass : Bool := false
  warnings : List String := []

abbrev PatternReader := StateT PatternState (Except PatternError)

/-- Whether the character of a pattern's beginning or end can be an anchor after these signs. -/
def endsHere (dialect : Dialect) (depth : Nat) (cs : List Char) : Bool :=
  match sign? dialect cs with
  | .ok none => true
  | .ok (some (.operator '|', _)) => true
  | .ok (some (.operator ')', _)) => dialect = .extended || depth ≠ 0
  | _ => false

namespace PatternReader

def goTo (rest : List Char) : PatternReader Unit := modify fun s => { s with rest }

def warn (warning : String) : PatternReader Unit := modify fun s =>
  { s with warnings := s.warnings ++ [warning] }

def repetitions (dialect : Dialect) : Nat → Regex → PatternReader Regex
  | 0, r => return r
  | fuel + 1, r => do
    match ← sign? dialect (← get).rest with
    | some (.operator '*', rest) => goTo rest; repetitions dialect fuel (.repeated r 0 none)
    | some (.operator '+', rest) => goTo rest; repetitions dialect fuel (.repeated r 1 none)
    | some (.operator '?', rest) => goTo rest; repetitions dialect fuel (.repeated r 0 (some 1))
    | some (.operator '\x7b', rest) =>
      match ← count? dialect rest with
      | some (low, high, rest) => goTo rest; repetitions dialect fuel (.repeated r low high)
      | none => return r
    | _ => return r

def alternatives (dialect : Dialect) (depth : Nat) : Nat → List Regex → PatternReader Regex
  | 0, _ => throw .tooBig
  | fuel + 1, done => do
    let current := Regex.sequence done.reverse
    let cs := (← get).rest
    let add (r : Regex) (rest : List Char) : PatternReader Regex := do
      goTo rest
      alternatives dialect depth fuel ((← repetitions dialect (rest.length + 1) r) :: done)
    let literal (c : Char) (rest : List Char) : PatternReader Regex := add (.one (.only c)) rest
    let atStart := done.isEmpty || (done.all fun r => r = .look .start)
    match ← sign? dialect cs with
    | none => if depth ≠ 0 then throw .unmatchedOpening else return current
    | some (.char c, rest) => literal c rest
    | some (.known r, rest) => add r rest
    | some (.back n, rest) =>
      if (← get).closed.contains n then add (.back n) rest else throw .badReference
    | some (.operator c, rest) =>
      if c = '.' then add (.one .any) rest
      else if c = '[' then do
        let (chars, rest) ← bracket? rest
        if isBareClass chars.ranges then modify fun s => { s with bareClass := true }
        add (.one chars) rest
      else if c = '|' then do
        goTo rest
        return .either current (← alternatives dialect depth fuel [])
      else if c = '(' then do
        let number := (← get).opened + 1
        modify fun s => { s with rest, opened := number }
        let body ← alternatives dialect (depth + 1) fuel []
        let s ← get
        set { s with closed := number :: s.closed }
        let rest ←
          match ← sign? dialect s.rest with
          | some (.operator ')', rest) => pure rest
          | _ => throw .unmatchedOpening
        add (.group number body) rest
      else if c = ')' then
        if depth ≠ 0 then return current
        else if dialect = .extended then literal c rest
        else throw .unmatchedClosing
      else if c = '^' then
        if dialect = .extended || done.isEmpty then do
          goTo rest
          alternatives dialect depth fuel (.look .start :: done)
        else literal c rest
      else if c = '$' then
        if dialect = .extended || endsHere dialect depth rest then add (.look .finish) rest
        else literal c rest
      else if !atStart then literal c rest
      else if dialect = .basic then literal c rest
      else if c = '\x7b' then
        match count? dialect rest with
        | .ok (some (_, _, rest)) => do
          warn "\x7b...\x7d at start of expression"
          goTo rest
          alternatives dialect depth fuel done
        | _ => literal c rest
      else do
        warn (String.singleton c ++ " at start of expression")
        goTo rest
        alternatives dialect depth fuel done

end PatternReader

def Regex.inAnyCase : Regex → Regex
  | .one chars => .one { chars with anyCase := true }
  | .group number body => .group number body.inAnyCase
  | .concat a b => .concat a.inAnyCase b.inAnyCase
  | .either a b => .either a.inAnyCase b.inAnyCase
  | .repeated body low high => .repeated body.inAnyCase low high
  | r => r

def pattern? (dialect : Dialect) (pattern : String) : Except PatternError (Regex × List String) := do
  let cs := pattern.toList
  let (r, s) ← (PatternReader.alternatives dialect 0 (2 * cs.length + 2) []).run { rest := cs }
  if s.bareClass then throw .bareClass
  return (r, s.warnings)

def literalPattern (pattern : String) : Regex :=
  .sequence (pattern.toList.map fun c => .one (.only c))

end IngressPlane.Shell
