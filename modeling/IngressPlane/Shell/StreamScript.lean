import IngressPlane.Shell.Arithmetic
import IngressPlane.Shell.Octets
import IngressPlane.Shell.Pattern

/-!
The scripts of the stream editor. A script is a row of commands, each for the lines that its addresses
choose; blocks and labels are places of the row to which other places jump.
-/
namespace IngressPlane.Shell.StreamEditor

open Text

inductive Address
  | line (n : Nat)
  | last
  /-- Without an expression it is the one that was used last. -/
  | pattern (r : Option Regex)
  /-- A line, and those that come so many lines after each other from there on. -/
  | every (first step : Nat)
  /-- So many lines after the first one. -/
  | after (n : Nat)
  /-- Up to a line whose number is a multiple. -/
  | multiple (n : Nat)

inductive Casing
  | upper | lower | upperOne | lowerOne | plain
  deriving DecidableEq

inductive Part
  | text (c : Char)
  /-- What the pattern has matched, or one of its groups. -/
  | group (n : Nat)
  /-- What the case of the letters after it will be. -/
  | casing (k : Casing)
  deriving DecidableEq

inductive Action
  /-- Goes to the end of the block where the addresses do not choose the line. -/
  | openBlock
  | closeBlock
  | label (name : String)
  | branch (name : String)
  /-- Branches if something has been replaced. -/
  | branchIfReplaced (name : String)
  | delete | deleteFirst | print | printFirst
  | next | appendNext
  | hold | holdMore | fetch | fetchMore | exchange
  | clear
  | lineNumber
  /-- Shows what is in the line, in rows of a length. -/
  | list (length : Nat)
  | quit (status : Nat) (prints : Bool)
  | insertBefore (text : String) | appendAfter (text : String) | change (text : String)
  | replace (pattern : Option Regex) (parts : List Part) (number : Nat) (all prints : Bool)
  | translate (pairs : List (Char × Char))

structure Edit where
  first : Option Address := none
  second : Option Address := none
  negated : Bool := false
  action : Action

inductive Mistake
  /-- How many characters of the script had been read, and what is wrong with it. -/
  | found (place : Nat) (reason : String)
  | noLabel (name : String)

/-! ## Characters by their names -/

def numbered? (base count : Nat) (isDigit : Char → Bool) (cs : List Char) : Option (Char × List Char) :=
  let digits := (cs.take count).takeWhile isDigit
  if digits.isEmpty then none
  else some (Char.ofNat (Arithmetic.valueIn base digits % 256), cs.drop digits.length)

def named? : List Char → Option (Char × List Char)
  | 'a' :: rest => some ('\x07', rest)
  | 'f' :: rest => some ('\x0c', rest)
  | 'n' :: rest => some ('\n', rest)
  | 'r' :: rest => some ('\r', rest)
  | 't' :: rest => some ('\t', rest)
  | 'v' :: rest => some ('\x0b', rest)
  | 'c' :: c :: rest => some (Char.ofNat (c.toUpper.toNat ^^^ 64), rest)
  | 'd' :: rest => numbered? 10 3 isDigit rest
  | 'o' :: rest => numbered? 8 3 Arithmetic.isOctal rest
  | 'x' :: rest => numbered? 16 2 Arithmetic.isHexDigit rest
  | _ => none

def isPatternSign (c : Char) : Bool := ['^', '$', '.', '*', '[', ']', '\\', '+', '?', '(', ')', '|'].contains c

/-! ## Reading scripts -/

structure Source where
  place : Nat := 0
  rest : List Char
  extended : Bool
  /-- How many blocks are open. -/
  blocks : Nat := 0

abbrev Reading := StateT Source (Except Mistake)

namespace Reading

def fail {α : Type} (reason : String) : Reading α := fun s => .error (.found s.place reason)

def take? : Reading (Option Char) := fun s =>
  match s.rest with
  | [] => .ok (none, s)
  | c :: rest => .ok (some c, { s with rest, place := s.place + 1 })

def peek? : Reading (Option Char) := return (← get).rest.head?

def takeWhile (p : Char → Bool) : Reading (List Char) := fun s =>
  let taken := s.rest.takeWhile p
  .ok (taken, { s with rest := s.rest.drop taken.length, place := s.place + taken.length })

def skipSpace : Reading Unit := do
  let _ ← takeWhile isSpace

def skipBlanks : Reading Unit := do
  let _ ← takeWhile fun c => c = ' ' || c = '\t'

def number : Reading Nat := return digitsValue (← takeWhile isDigit)

def takeNamed? : Reading (Option Char) := fun s =>
  match named? s.rest with
  | none => .ok (none, s)
  | some (c, rest) => .ok (some c, { s with rest, place := s.place + (s.rest.length - rest.length) })

/-- The rest of a bracket expression, in which a backslash stands for itself unless it names a
character, and a bracket may begin a name that ends with the same sign. -/
def bracket : Nat → (isFirst : Bool) → (name : Option Char) → Reading (Option (List Char))
  | 0, _, _ => return none
  | fuel + 1, isFirst, name => do
    match ← take? with
    | none => return none
    | some c =>
      let following ← peek?
      let goOn (kept : List Char) (name : Option Char) : Reading (Option (List Char)) :=
        return (← bracket fuel (isFirst && c = '^') name).map (kept ++ ·)
      if c = '\n' then return none
      else if name.isSome then
        if name = some c && following = some ']' then
          let _ ← take?
          goOn [c, ']'] none
        else goOn [c] name
      else if c = ']' && !isFirst then return some [c]
      else if c = '[' && [some ':', some '.', some '='].contains following then
        let _ ← take?
        goOn [c, following.getD ':'] following
      else if c = '\\' then goOn [(← takeNamed?).getD c] none
      else goOn [c] none

/-- The text up to a delimiter that no backslash stands before; none if it is missing. In a pattern
it does not count in brackets. -/
def upTo (delimiter : Char) (isPattern : Bool) : Nat → Reading (Option (List Char))
  | 0 => return none
  | fuel + 1 => do
    let goOn (kept : List Char) : Reading (Option (List Char)) :=
      return (← upTo delimiter isPattern fuel).map (kept ++ ·)
    match ← take? with
    | none => return none
    | some c =>
      if c = delimiter then return some []
      if c = '\n' && isPattern then return none
      if c = '[' && isPattern then
        match ← bracket ((← get).rest.length + 1) true none with
        | none => return none
        | some kept => return ← goOn (c :: kept)
      if c ≠ '\\' then return ← goOn [c]
      if isPattern && (← peek?) ≠ some delimiter then
        let letter ← peek?
        match ← takeNamed? with
        | none => pure ()
        | some d =>
          let isNumbered := [some 'c', some 'd', some 'o', some 'x'].contains letter
          return ← goOn (if isNumbered && isPatternSign d then ['\\', d] else [d])
      match ← take? with
      | none => return none
      | some d => goOn (if d = delimiter then [d] else ['\\', d])

def delimited (delimiter : Char) (isPattern : Bool) : Reading (Option (List Char)) := do
  upTo delimiter isPattern ((← get).rest.length + 1)

/-- The expression that a pattern stands for; an empty one stands for the last one used. -/
def compile (text : List Char) (anyCase : Bool) : Reading (Option Regex) := do
  if text.isEmpty then return none
  let extended := (← get).extended
  match pattern? (if extended then .extended else .basic) (String.ofList text) with
  | .error e => fail e.message
  | .ok (r, warnings) =>
    if extended && !warnings.isEmpty then fail "Invalid preceding regular expression"
    return some (if anyCase then r.inAnyCase else r)

/-! ## Addresses -/

def address? : Reading (Option Address) := do
  match ← peek? with
  | none => return none
  | some c =>
    if isDigit c then
      let n ← number
      if (← peek?) ≠ some '~' then return some (.line n)
      let _ ← take?
      return some (.every n (← number))
    if c = '$' then
      let _ ← take?
      return some .last
    if c = '/' || c = '\\' then
      let _ ← take?
      let delimiter ← if c = '/' then pure '/' else pure ((← take?).getD '/')
      match ← delimited delimiter true with
      | none => fail "unterminated address regex"
      | some text =>
        let anyCase ← if (← peek?) = some 'I' then (do let _ ← take?; pure true) else pure false
        return some (.pattern (← compile text anyCase))
    return none

def firstAddress : Reading (Option Address) := do
  match ← peek? with
  | some c =>
    if c = '+' || c = '~' then
      let _ ← take?
      let _ ← number
      fail "invalid usage of +N or ~N as first address"
    else address?
  | none => return none

def secondAddress : Reading (Option Address) := do
  if (← peek?) ≠ some ',' then return none
  let _ ← take?
  skipSpace
  match ← peek? with
  | some '+' =>
    let _ ← take?
    return some (.after (← number))
  | some '~' =>
    let _ ← take?
    return some (.multiple (← number))
  | _ =>
    match ← address? with
    | some found => return some found
    | none =>
      let _ ← take?
      fail "unexpected `,'"

def negation : Reading Bool := do
  if (← peek?) ≠ some '!' then return false
  let _ ← take?
  skipSpace
  if (← peek?) = some '!' then
    let _ ← take?
    fail "multiple `!'s"
  return true

/-! ## Commands -/

def casings : List (Char × Casing) := [
  ('U', .upper), ('L', .lower), ('u', .upperOne), ('l', .lowerOne), ('E', .plain)]

def replacement : Nat → List Char → List Part
  | 0, _ => []
  | _, [] => []
  | fuel + 1, '\\' :: c :: rest =>
    if isDigit c then .group (c.toNat - '0'.toNat) :: replacement fuel rest
    else
      match casings.lookup c, named? (c :: rest) with
      | some k, _ => .casing k :: replacement fuel rest
      | none, some (d, rest) => .text d :: replacement fuel rest
      | none, none => .text c :: replacement fuel rest
  | fuel + 1, '&' :: rest => .group 0 :: replacement fuel rest
  | fuel + 1, c :: rest => .text c :: replacement fuel rest

structure Flags where
  number : Nat := 0
  all : Bool := false
  prints : Bool := false
  anyCase : Bool := false

def flags : Nat → Flags → Reading Flags
  | 0, f => return f
  | fuel + 1, f => do
    match ← peek? with
    | none => return f
    | some c =>
      if c = '\x7d' || c = '#' then return f
      else if isDigit c then
        let n ← number
        if n = 0 then fail "number option to `s' command may not be zero"
        else if f.number ≠ 0 then fail "multiple number options to `s' command"
        else flags fuel { f with number := n }
      else
        let _ ← take?
        if c = '\n' || c = ';' then return f
        else if isSpace c then flags fuel f
        else if (c = 'g' && f.all) || (c = 'p' && f.prints) then
          fail ("multiple `" ++ String.singleton c ++ "' options to `s' command")
        else if c = 'g' then flags fuel { f with all := true }
        else if c = 'p' then flags fuel { f with prints := true }
        else if c = 'i' || c = 'I' then flags fuel { f with anyCase := true }
        else fail "unknown option to `s'"

def lastGroup (parts : List Part) : Nat :=
  parts.foldl (fun n part =>
    match part with
    | .group g => max n g
    | _ => n) 0

def substitution : Reading Action := do
  let delimiter := (← take?).getD '\n'
  match ← delimited delimiter true with
  | none => fail "unterminated `s' command"
  | some pattern =>
    match ← delimited delimiter false with
    | none => fail "unterminated `s' command"
    | some text =>
      let f ← flags ((← get).rest.length + 1) {}
      let r ← compile pattern f.anyCase
      let parts := replacement text.length text
      if r.any fun r => r.groupCount < lastGroup parts then
        fail ("invalid reference \\" ++ (lastGroup parts).repr ++ " on `s' command's RHS")
      return .replace r parts f.number f.all f.prints

/-- The lines of a text that a backslash does not continue, with the ends of the lines. -/
def textLines : Nat → Reading (List Char)
  | 0 => return []
  | fuel + 1 => do
    match ← take? with
    | none => return []
    | some '\n' => return []
    | some '\\' =>
      match ← takeNamed? with
      | some c => return c :: (← textLines fuel)
      | none =>
        match ← take? with
        | none => return []
        | some c => return c :: (← textLines fuel)
    | some c => return c :: (← textLines fuel)

/-- The text of a command that writes lines. It stands on the next line after a backslash, or on the
same one, where a backslash keeps the blanks in front of it. -/
def writtenText : Reading String := do
  skipBlanks
  match ← peek? with
  | none => fail "expected \\ after `a', `c' or `i'"
  | some '\n' => fail "expected \\ after `a', `c' or `i'"
  | some '\\' =>
    let _ ← take?
    let blanks ← takeWhile fun c => c = ' ' || c = '\t'
    match ← peek? with
    | none => return ""
    | some '\n' =>
      let _ ← take?
      return String.ofList (← textLines ((← get).rest.length + 1)) ++ "\n"
    | some _ => return String.ofList (blanks ++ (← textLines ((← get).rest.length + 1))) ++ "\n"
  | some _ => return String.ofList (← textLines ((← get).rest.length + 1)) ++ "\n"

def translated : Nat → List Char → List Char
  | 0, _ => []
  | fuel + 1, '\\' :: c :: rest =>
    match named? (c :: rest) with
    | some (d, rest) => d :: translated fuel rest
    | none => c :: translated fuel rest
  | fuel + 1, c :: rest => c :: translated fuel rest
  | _, [] => []

def endOfCommand : Reading Unit := do
  let _ ← takeWhile fun c => isSpace c && c ≠ '\n'
  match ← peek? with
  | none => return
  | some c =>
    if c = '\x7d' || c = '#' then return
    let _ ← take?
    if c ≠ '\n' && c ≠ ';' then fail "extra characters after command"

def translation : Reading Action := do
  let delimiter := (← take?).getD '\n'
  match ← delimited delimiter false with
  | none => fail "unterminated `y' command"
  | some source =>
    match ← delimited delimiter false with
    | none => fail "unterminated `y' command"
    | some target =>
      let source := translated source.length source
      let target := translated target.length target
      if source.length ≠ target.length then fail "strings for `y' command are different lengths"
      endOfCommand
      return .translate (source.zip target)

def labelName (isEnd : Char → Bool) : Reading String := do
  skipBlanks
  return String.ofList (← takeWhile fun c => !isSpace c && c ≠ ';' && !isEnd c)

def letterActions : List (Char × Action) := [
  ('d', .delete), ('D', .deleteFirst), ('p', .print), ('P', .printFirst), ('n', .next),
  ('N', .appendNext), ('h', .hold), ('H', .holdMore), ('g', .fetch), ('G', .fetchMore),
  ('x', .exchange), ('z', .clear), ('=', .lineNumber)]

def lastNumber (otherwise : Nat) : Reading Nat := do
  skipBlanks
  let digits ← takeWhile isDigit
  endOfCommand
  return if digits.isEmpty then otherwise else digitsValue digits

def rowLength : Nat := 70

def action (first second : Option Address) (c : Char) : Reading Action := do
  match letterActions.lookup c with
  | some found =>
    endOfCommand
    return found
  | none =>
    if c = '\x7b' then
      modify fun s => { s with blocks := s.blocks + 1 }
      return .openBlock
    else if c = '\x7d' then
      if (← get).blocks = 0 then fail "unexpected `\x7d'"
      if first.isSome then fail "`\x7d' doesn't want any addresses"
      modify fun s => { s with blocks := s.blocks - 1 }
      endOfCommand
      return .closeBlock
    else if c = 's' then substitution
    else if c = 'y' then translation
    else if c = 'q' || c = 'Q' then
      if second.isSome then fail "command only uses one address"
      return .quit (← lastNumber 0) (c = 'q')
    else if c = 'l' then return .list (← lastNumber rowLength)
    else if c = 'a' then return .appendAfter (← writtenText)
    else if c = 'i' then return .insertBefore (← writtenText)
    else if c = 'c' then return .change (← writtenText)
    else if c = ':' then
      if first.isSome then fail ": doesn't want any addresses"
      let name ← labelName fun _ => false
      if name = "" then fail "\":\" lacks a label"
      return .label name
    else if c = 'b' then return .branch (← labelName (· = '\x7d'))
    else if c = 't' then return .branchIfReplaced (← labelName (· = '\x7d'))
    else fail ("unknown command: `" ++ String.singleton c ++ "'")

def edits : Nat → Reading (List Edit)
  | 0 => return []
  | fuel + 1 => do
    let _ ← takeWhile fun c => isSpace c || c = ';'
    match ← peek? with
    | none =>
      if (← get).blocks ≠ 0 then throw (.found 0 "unmatched `\x7b'")
      return []
    | some '#' =>
      let _ ← takeWhile (· ≠ '\n')
      edits fuel
    | some _ =>
      let first ← firstAddress
      skipSpace
      let second ← if first.isSome then secondAddress else pure none
      skipSpace
      let negated ← negation
      skipSpace
      match first, second with
      | some (.line 0), some (.pattern _) => pure ()
      | some (.line 0), _ =>
        let _ ← take?
        fail "invalid usage of line address 0"
      | _, _ => pure ()
      match ← take? with
      | none => fail "missing command"
      | some c =>
        let action ← action first second c
        return { first, second, negated, action } :: (← edits fuel)

end Reading

/-! ## Places -/

def blockEnd (script : Array Edit) (place : Nat) : Nat :=
  let depths := (script.toList.zipIdx.drop place).foldl (fun (depth, found) (edit, n) =>
    match found, edit.action with
    | some _, _ => (depth, found)
    | none, .openBlock => (depth + 1, none)
    | none, .closeBlock => (depth - 1, if depth = 1 then some n else none)
    | none, _ => (depth, none)) (0, (none : Option Nat))
  (depths.2.map (· + 1)).getD script.size

def labelPlace? (script : Array Edit) (name : String) : Option Nat :=
  if name = "" then some script.size
  else
    script.findIdx? fun edit =>
      match edit.action with
      | .label found => found = name
      | _ => false

def missingLabel? (script : Array Edit) : Option String :=
  script.toList.findSome? fun edit =>
    match edit.action with
    | .branch name | .branchIfReplaced name => if (labelPlace? script name).isNone then some name else none
    | _ => none

def read (extended : Bool) (script : String) : Except Mistake (Array Edit) := do
  let (found, _) ← (Reading.edits (script.length + 2)).run { rest := script.toList, extended }
  match missingLabel? found.toArray with
  | some name => throw (.noLabel name)
  | none => return found.toArray

end IngressPlane.Shell.StreamEditor
