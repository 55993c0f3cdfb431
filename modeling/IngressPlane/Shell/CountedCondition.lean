import IngressPlane.Shell.Condition
import IngressPlane.Shell.Quotation

/-!
How the program `test` reads a condition: up to four words by their number, and more of them by the
operators.
-/
namespace IngressPlane.Shell.CountedCondition

open Text

inductive Error
  | missingAfter (word : String)
  | extra (word : String)
  | notBinary (word : String)
  | notUnary (word : String)
  | notInteger (word : String)
  | lengthNotAccepted (operator : String)
  | closingExpected
  | closingNotFound (word : String)
  deriving DecidableEq

def Error.message : Error → String
  | .missingAfter word => "missing argument after " ++ inQuotes word
  | .extra word => "extra argument " ++ inQuotes word
  | .notBinary word => inQuotes word ++ ": binary operator expected"
  | .notUnary word => inQuotes word ++ ": unary operator expected"
  | .notInteger word => "invalid integer " ++ inQuotes word
  | .lengthNotAccepted operator => operator ++ " does not accept -l"
  | .closingExpected => "')' expected"
  | .closingNotFound word => "')' expected, found " ++ inQuotes word

abbrev Reading := StateT (List String) (Except Error)

def unary? (word : String) : Option UnaryTest :=
  if word = "-N" then some .never else unaryTests.lookup word

def binary? (word : String) : Option BinaryTest :=
  if word = "==" then some .same
  else if word = "<" || word = ">" then none
  else binaryTests.lookup word

def isOption (word : String) : Bool :=
  match word.toList with
  | ['-', _] => true
  | _ => false

section
variable (m : Machine) (last : String)

def next : Reading String := do
  match ← get with
  | [] => throw (.missingAfter last)
  | word :: rest =>
    set rest
    return word

def filled : Reading Bool := return (← next last) ≠ ""

def integerOf (word : String) : Reading Int :=
  match numberOf? word with
  | some n => return n
  | none => throw (.notInteger word)

def unary : Reading Bool := do
  let operator ← next last
  match unary? operator with
  | none => throw (.notUnary operator)
  | some test =>
    let word ← next last
    if test = .isTerminal then
      let _ ← integerOf word
    return test.holds m word

/-- The older of two files may be missing. -/
def holds (a b : String) (test : BinaryTest) : Bool :=
  match test with
  | .newer => isNewer m a b || (m.exists? a && !m.exists? b)
  | .older => isNewer m b a || (m.exists? b && !m.exists? a)
  | test => test.holds m a b

/-- A number, or after `-l` the length of a word. -/
def measured (isLength : Bool) (word : String) : Reading Int :=
  if isLength then return word.length else integerOf word

def binary (leftIsLength : Bool) : Reading Bool := do
  if leftIsLength then
    let _ ← next last
  let left ← next last
  let operator ← next last
  let rightIsLength := match ← get with
    | "-l" :: _ :: _ => true
    | _ => false
  if rightIsLength then
    let _ ← next last
  let right ← next last
  match binary? operator with
  | none => throw (.notBinary operator)
  | some test =>
    if test.isNumeric then
      let a ← measured leftIsLength left
      let b ← measured rightIsLength right
      return test.compares? a b = some true
    if (leftIsLength || rightIsLength) && test.isAboutFiles then throw (.lengthNotAccepted operator)
    return holds m left right test

def two : Reading Bool := do
  let first := (← get).headD ""
  if first = "!" then
    let _ ← next last
    return !(← filled last)
  else if isOption first then unary m last
  else throw (.missingAfter last)

def joined (operator : String) (combine : Bool → Bool → Bool) (reading : Reading Bool) :
    Nat → Bool → Reading Bool
  | 0, value => return value
  | fuel + 1, value => do
    if (← get).head? = some operator then
      let _ ← next last
      joined operator combine reading fuel (combine value (← reading))
    else return value

/-- The number of words up to a closing bracket, if there are at most four of them, and of all words
otherwise. -/
def bracketed (words : List String) : Nat :=
  let count := 1 + ((words.drop 1).takeWhile (· ≠ ")")).length
  if count ≤ 4 then count else words.length

mutual

def counted : Nat → Nat → Reading Bool
  | 0, _ => return false
  | fuel + 1, count => do
    let words ← get
    let first := words.headD ""
    match count with
    | 1 => filled last
    | 2 => two m last
    | 3 => three fuel
    | 4 =>
      if first = "!" then
        let _ ← next last
        return !(← three fuel)
      if first = "(" && (words.drop 3).head? = some ")" then
        let _ ← next last
        let value ← two m last
        let _ ← next last
        return value
      disjunction fuel
    | _ => disjunction fuel

def three : Nat → Reading Bool
  | 0 => return false
  | fuel + 1 => do
    match ← get with
    | first :: second :: third :: _ =>
      if (binary? second).isSome then binary m last false
      else if first = "!" then
        let _ ← next last
        return !(← two m last)
      else if first = "(" && third = ")" then
        let _ ← next last
        let value ← filled last
        let _ ← next last
        return value
      else if second = "-a" || second = "-o" then disjunction fuel
      else throw (.notBinary second)
    | _ => throw (.missingAfter last)

def disjunction : Nat → Reading Bool
  | 0 => return false
  | fuel + 1 => do
    if (← get).isEmpty then throw (.missingAfter last)
    joined last "-o" or (conjunction fuel) fuel (← conjunction fuel)

def conjunction : Nat → Reading Bool
  | 0 => return false
  | fuel + 1 => do joined last "-a" and (term fuel) fuel (← term fuel)

def term : Nat → Reading Bool
  | 0 => return false
  | fuel + 1 => do
    match ← get with
    | [] => throw (.missingAfter last)
    | "!" :: _ =>
      let _ ← next last
      return !(← term fuel)
    | "(" :: inside =>
      let _ ← next last
      if inside.isEmpty then throw (.missingAfter last)
      let value ← counted fuel (bracketed inside)
      match ← get with
      | [] => throw .closingExpected
      | ")" :: rest =>
        set rest
        return value
      | word :: _ => throw (.closingNotFound word)
    | words =>
      if 4 ≤ words.length && words.head? = some "-l"
          && ((words.drop 2).head?.bind binary?).isSome then
        binary m last true
      else if 3 ≤ words.length && ((words.drop 1).head?.bind binary?).isSome then
        binary m last false
      else if words.head?.any isOption then unary m last
      else filled last

end

end

def answer (m : Machine) (words : List String) : Except Error Bool := do
  if words.isEmpty then return false
  let last := words.getLastD ""
  let (value, rest) ← (counted m last (8 * words.length + 16) words.length).run words
  match rest with
  | word :: _ => throw (.extra word)
  | [] => return value

end IngressPlane.Shell.CountedCondition
