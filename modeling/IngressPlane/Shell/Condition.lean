import IngressPlane.Shell.Machine

/-!
Conditions on words and files: what the operators ask, and how a shell reads the words of a condition.
It has no rule for the number of words beyond four, and finds its way by the operators alone.
-/
namespace IngressPlane.Shell

open Text

inductive UnaryTest
  | isEmpty
  | isFilled
  | exists
  | isRegular
  | isDirectory
  | isExecutable
  | hasContents
  | isDevice
  /-- What holds for none of the files that there are. -/
  | never
  /-- Whether a descriptor is connected to a terminal. -/
  | isTerminal
  deriving DecidableEq

inductive BinaryTest
  | same | differ | before | after
  | equal | unequal | less | atMost | greater | atLeast
  | newer | older | sameFile
  deriving DecidableEq

def unaryTests : List (String × UnaryTest) := [
  ("-z", .isEmpty), ("-n", .isFilled), ("-e", .exists), ("-r", .exists), ("-w", .exists),
  ("-O", .exists), ("-G", .exists), ("-f", .isRegular), ("-d", .isDirectory), ("-x", .isExecutable),
  ("-s", .hasContents), ("-c", .isDevice), ("-b", .never), ("-p", .never), ("-u", .never),
  ("-g", .never), ("-k", .never), ("-h", .never), ("-L", .never), ("-S", .never), ("-t", .isTerminal)]

def binaryTests : List (String × BinaryTest) := [
  ("=", .same), ("!=", .differ), ("<", .before), (">", .after), ("-eq", .equal), ("-ne", .unequal),
  ("-gt", .greater), ("-ge", .atLeast), ("-lt", .less), ("-le", .atMost), ("-nt", .newer),
  ("-ot", .older), ("-ef", .sameFile)]

def numberOf? (word : String) : Option Int :=
  let body := word.toList.dropWhile isSpace
  let digits := body.takeWhile (!isSpace ·)
  if (body.drop digits.length).all isSpace then integer? digits else none

def inInt64 (n : Int) : Bool := -Int.pow 2 63 ≤ n && n < Int.pow 2 63

def UnaryTest.holds (m : Machine) (word : String) : UnaryTest → Bool
  | .isEmpty => word = ""
  | .isFilled => word ≠ ""
  | .exists => m.exists? word
  | .isRegular => m.isRegular word
  | .isDirectory => m.hasDirectory word
  | .isExecutable => m.hasDirectory word || m.isProgram word
  | .hasContents => m.hasDirectory word || m.isProgram word || (m.contents? word).any (· ≠ "")
  | .isDevice => m.absolute word = "/dev/null"
  | .never => false
  | .isTerminal => false

/-- Whether a file is known to be newer than another one: those of a script are newer than those that
have always been there. -/
def isNewer (m : Machine) (a b : String) : Bool :=
  let made (path : String) : Bool := m.files.contains (m.absolute path)
  made a && m.exists? b && !made b

def BinaryTest.compares? (a b : Int) : BinaryTest → Option Bool
  | .equal => some (a = b)
  | .unequal => some (a ≠ b)
  | .less => some (a < b)
  | .atMost => some (a ≤ b)
  | .greater => some (b < a)
  | .atLeast => some (b ≤ a)
  | _ => none

def BinaryTest.isNumeric (test : BinaryTest) : Bool := (test.compares? 0 0).isSome

def BinaryTest.isAboutFiles (test : BinaryTest) : Bool :=
  test = .newer || test = .older || test = .sameFile

def BinaryTest.holds (m : Machine) (a b : String) : BinaryTest → Bool
  | .same => a = b
  | .differ => a ≠ b
  | .before => a < b
  | .after => b < a
  | .newer => isNewer m a b
  | .older => isNewer m b a
  | .sameFile => m.exists? a && m.exists? b && m.absolute a = m.absolute b
  | _ => false

namespace Condition

inductive Error
  | illegalNumber (word : String)
  | unexpected (word : String)
  | argumentExpected (operator : String)
  | closingExpected
  deriving DecidableEq

def Error.message : Error → String
  | .illegalNumber word => "Illegal number: " ++ word
  | .unexpected word => (if word = "" then "" else word ++ ": ") ++ "unexpected operator"
  | .argumentExpected operator => operator ++ ": argument expected"
  | .closingExpected => "closing paren expected"

inductive Mark
  | finish
  | operand
  | not | and | or
  | opening | closing
  | unary (name : String) (test : UnaryTest)
  | binary (name : String) (test : BinaryTest)
  deriving DecidableEq

def markOf (word : String) : Mark :=
  if word = "!" then .not
  else if word = "-a" then .and
  else if word = "-o" then .or
  else if word = "(" then .opening
  else if word = ")" then .closing
  else
    match unaryTests.lookup word with
    | some test => .unary word test
    | none =>
      match binaryTests.lookup word with
      | some test => .binary word test
      | none => .operand

def isBinary (word : String) : Bool := (binaryTests.lookup word).isSome

/-- What the first word is. An operator is nothing but a word where its operand is missing. -/
def mark : List String → Mark
  | [] => .finish
  | word :: rest =>
    match markOf word, rest with
    | .opening, [] => .operand
    | .unary .., [] => .operand
    | .unary name test, next :: _ :: _ => if isBinary next then .operand else .unary name test
    | found, _ => found

abbrev Answer := Except Error (Bool × List String)

def integerOf (word : String) : Except Error Int :=
  match (numberOf? word).filter inInt64 with
  | some n => .ok n
  | none => .error (.illegalNumber word)

def unaryAnswer (m : Machine) (name : String) (test : UnaryTest) : List String → Answer
  | [] => .error (.argumentExpected name)
  | word :: rest => do
    if test = .isTerminal then
      let _ ← integerOf word
    return (test.holds m word, word :: rest)

def binaryAnswer (m : Machine) (left name : String) (test : BinaryTest) : List String → Answer
  | [] => .error (.argumentExpected name)
  | right :: rest => do
    if test.isNumeric then
      let a ← integerOf left
      let b ← integerOf right
      return (test.compares? a b = some true, right :: rest)
    return (test.holds m left right, right :: rest)

mutual

/-- Conditions joined by `-o`, the first of which begins with the mark. All of them are read. -/
def disjunction (m : Machine) : Nat → Mark → List String → Answer
  | 0, _, words => .ok (false, words)
  | fuel + 1, first, words => do
    let (value, words) ← conjunction m fuel first words
    match mark (words.drop 1) with
    | .or =>
      let (other, words) ← disjunction m fuel (mark (words.drop 2)) (words.drop 2)
      return (value || other, words)
    | _ => return (value, words)

def conjunction (m : Machine) : Nat → Mark → List String → Answer
  | 0, _, words => .ok (false, words)
  | fuel + 1, first, words => do
    let (value, words) ← negation m fuel first words
    match mark (words.drop 1) with
    | .and =>
      let (other, words) ← conjunction m fuel (mark (words.drop 2)) (words.drop 2)
      return (value && other, words)
    | _ => return (value, words)

def negation (m : Machine) : Nat → Mark → List String → Answer
  | 0, _, words => .ok (false, words)
  | fuel + 1, .not, words => do
    let next := mark (words.drop 1)
    let (value, words) ← negation m fuel next (if next = .finish then words else words.drop 1)
    return (!value, words)
  | fuel + 1, first, words => simple m fuel first words

def simple (m : Machine) : Nat → Mark → List String → Answer
  | 0, _, words => .ok (false, words)
  | _, .finish, words => .ok (false, words)
  | fuel + 1, .opening, words => do
    let inside := words.drop 1
    if mark inside = .closing then return (false, inside)
    let (value, words) ← disjunction m fuel (mark inside) inside
    if mark (words.drop 1) ≠ .closing then throw .closingExpected
    return (value, words.drop 1)
  | _, .unary name test, words => unaryAnswer m name test (words.drop 1)
  | _, _, words =>
    match mark (words.drop 1) with
    | .binary name test => binaryAnswer m (words.headD "") name test (words.drop 2)
    | _ => .ok (words.headD "" ≠ "", words)

end

def whole (m : Machine) (first : Mark) (words : List String) : Except Error Bool := do
  let (value, rest) ← disjunction m (4 * words.length + 8) first words
  match rest with
  | word :: _ :: _ => throw (.unexpected word)
  | _ => return value

/-- The answer to a condition, or the contrary. No words at all are false. -/
def answer (m : Machine) (negated : Bool) : List String → Except Error Bool
  | [] => .ok negated
  | first :: rest => do
    let words := first :: rest
    let few := words.length = 3 || words.length = 4
    if words.length = 3 && isBinary (rest.headD "") then
      return (← whole m .operand words) != negated
    if few && first = "(" && words.getLast? = some ")" then
      let inside := rest.dropLast
      return (← whole m (mark inside) inside) != negated
    if few && first = "!" then answer m true rest
    else return (← whole m (mark words) words) != negated

end Condition
end IngressPlane.Shell
