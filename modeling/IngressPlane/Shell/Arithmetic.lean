import IngressPlane.Shell.Octets
import IngressPlane.Text.Decimal

/-!
Arithmetic expressions over the variables of a script, on signed integers of 64 bits.
-/
namespace IngressPlane.Shell.Arithmetic

open Text

inductive UnaryOperator
  | plus | minus | not | complement
  deriving DecidableEq

inductive BinaryOperator
  | times | divide | remainder | plus | minus | shiftLeft | shiftRight
  | less | lessOrEqual | greater | greaterOrEqual | equal | notEqual
  | bitAnd | bitXor | bitOr
  deriving DecidableEq

inductive Expression
  | number (n : Int64)
  | variable (name : String)
  | unary (operator : UnaryOperator) (operand : Expression)
  | binary (operator : BinaryOperator) (left right : Expression)
  | and (left right : Expression)
  | or (left right : Expression)
  | choice (condition consequence alternative : Expression)
  /-- Sets a variable, and has its new value. -/
  | assign (name : String) (value : Expression)

inductive Error
  /-- Something else has to stand somewhere in the expression. -/
  | expecting (what : String)
  | divisionByZero
  | illegalNumber (text : String)
  deriving DecidableEq

/-! ## Numbers -/

def isOctal (c : Char) : Bool := '0' ≤ c && c ≤ '7'

def digitValue (c : Char) : Nat :=
  if isDigit c then c.toNat - '0'.toNat else c.toLower.toNat - 'a'.toNat + 10

def isHexDigit (c : Char) : Bool := isDigit c || ('a' ≤ c.toLower && c.toLower ≤ 'f')

def valueIn (base : Nat) (cs : List Char) : Nat := cs.foldl (fun n c => n * base + digitValue c) 0

def constant? : List Char → Option (Nat × List Char)
  | '0' :: x :: c :: rest =>
    if x.toLower = 'x' && isHexDigit c then
      some (valueIn 16 ((c :: rest).takeWhile isHexDigit), (c :: rest).dropWhile isHexDigit)
    else
      let cs := x :: c :: rest
      some (valueIn 8 (cs.takeWhile isOctal), cs.dropWhile isOctal)
  | '0' :: rest => some (valueIn 8 (rest.takeWhile isOctal), rest.dropWhile isOctal)
  | c :: rest =>
    if isDigit c then
      some (valueIn 10 ((c :: rest).takeWhile isDigit), (c :: rest).dropWhile isDigit)
    else none
  | [] => none

def largest : Nat := Nat.pow 2 63 - 1

/-- Numbers that are too large stop at the largest. -/
def ofNat (n : Nat) : Int64 := Int64.ofInt (min n largest)

def number? (text : String) : Option Int64 :=
  let cs := text.toList.dropWhile isSpace
  let (negative, cs) := match cs with
    | '-' :: rest => (true, rest)
    | '+' :: rest => (false, rest)
    | cs => (false, cs)
  match constant? cs with
  | none => none
  | some (n, rest) =>
    if rest.all isSpace then
      some (if negative then Int64.ofInt (-(min n (largest + 1) : Nat)) else ofNat n)
    else none

/-! ## Reading -/

inductive Sign
  | number (n : Int64)
  | name (name : String)
  /-- An operator or a bracket. -/
  | mark (text : String)
  | bad

def marks : List String := [
  "<<=", ">>=", "<<", ">>", "<=", ">=", "==", "!=", "&&", "||", "*=", "/=", "%=", "+=", "-=", "&=",
  "^=", "|=", "<", ">", "=", "!", "&", "|", "*", "/", "%", "+", "-", "^", "~", "?", ":", "(", ")"]

def signs : Nat → List Char → List Sign
  | 0, _ => []
  | _, [] => []
  | fuel + 1, c :: rest =>
    if isSpace c then signs fuel rest
    else if isNameStart c then
      .name (String.ofList (c :: rest.takeWhile isNameChar)) :: signs fuel (rest.dropWhile isNameChar)
    else
      match constant? (c :: rest) with
      | some (n, after) => .number (ofNat n) :: signs fuel after
      | none =>
        match marks.find? fun mark => mark.toList.isPrefixOf (c :: rest) with
        | some mark => .mark mark :: signs fuel ((c :: rest).drop mark.length)
        | none => [.bad]

def binaryOperators : List (String × BinaryOperator × Nat) := [
  ("*", .times, 10), ("/", .divide, 10), ("%", .remainder, 10), ("+", .plus, 9), ("-", .minus, 9),
  ("<<", .shiftLeft, 8), (">>", .shiftRight, 8), ("<", .less, 7), ("<=", .lessOrEqual, 7),
  (">", .greater, 7), (">=", .greaterOrEqual, 7), ("==", .equal, 6), ("!=", .notEqual, 6),
  ("&", .bitAnd, 5), ("^", .bitXor, 4), ("|", .bitOr, 3)]

def assigning : List (String × BinaryOperator) := [
  ("*=", .times), ("/=", .divide), ("%=", .remainder), ("+=", .plus), ("-=", .minus),
  ("<<=", .shiftLeft), (">>=", .shiftRight), ("&=", .bitAnd), ("^=", .bitXor), ("|=", .bitOr)]

def join? (mark : String) : Option ((Expression → Expression → Expression) × Nat) :=
  if mark = "&&" then some (.and, 2)
  else if mark = "||" then some (.or, 1)
  else (binaryOperators.lookup mark).map fun (operator, level) => (.binary operator, level)

def unary? (mark : String) : Option UnaryOperator :=
  if mark = "+" then some .plus
  else if mark = "-" then some .minus
  else if mark = "!" then some .not
  else if mark = "~" then some .complement
  else none

abbrev Reading := Except Error (Expression × List Sign)

structure Reader where
  /-- A number, a variable, or an expression in brackets, with signs in front. -/
  operand : List Sign → Reading
  /-- An expression whose operators bind at least so closely, after its first operand. -/
  joined : (level : Nat) → Expression → List Sign → Reading
  conditional : List Sign → Reading
  assignment : List Sign → Reading

namespace Reader

variable (inner : Reader)

def operandFrom : List Sign → Reading
  | .number n :: rest => .ok (.number n, rest)
  | .name name :: rest => .ok (.variable name, rest)
  | .mark "(" :: rest => do
    match ← inner.assignment rest with
    | (e, .mark ")" :: rest) => return (e, rest)
    | _ => throw (.expecting "')'")
  | .mark mark :: rest =>
    match unary? mark with
    | some operator => (inner.operand rest).map fun (e, rest) => (.unary operator e, rest)
    | none => .error (.expecting "primary")
  | _ => .error (.expecting "primary")

def joinedFrom (level : Nat) (left : Expression) (signs : List Sign) : Reading :=
  match signs with
  | .mark mark :: rest =>
    match join? mark with
    | some (join, closeness) =>
      if closeness < level then .ok (left, signs)
      else do
        let (right, rest) ← inner.operand rest
        let (right, rest) ← inner.joined (closeness + 1) right rest
        inner.joined level (join left right) rest
    | none => .ok (left, signs)
  | _ => .ok (left, signs)

def conditionalFrom (signs : List Sign) : Reading := do
  let (first, rest) ← inner.operand signs
  let (condition, rest) ← inner.joined 1 first rest
  match rest with
  | .mark "?" :: rest =>
    match ← inner.assignment rest with
    | (consequence, .mark ":" :: rest) =>
      let (alternative, rest) ← inner.conditional rest
      return (.choice condition consequence alternative, rest)
    | _ => throw (.expecting "':'")
  | rest => return (condition, rest)

def assignmentFrom : List Sign → Reading
  | .name name :: .mark mark :: rest =>
    if mark = "=" then (inner.assignment rest).map fun (e, rest) => (.assign name e, rest)
    else
      match assigning.lookup mark with
      | some operator =>
        (inner.assignment rest).map fun (e, rest) =>
          (.assign name (.binary operator (.variable name) e), rest)
      | none => inner.conditional (.name name :: .mark mark :: rest)
  | signs => inner.conditional signs

end Reader

def reader : Nat → Reader
  | 0 =>
    let tooDeep : Reading := .error (.expecting "primary")
    { operand := fun _ => tooDeep
      joined := fun _ _ _ => tooDeep
      conditional := fun _ => tooDeep
      assignment := fun _ => tooDeep }
  | depth + 1 =>
    let inner := reader depth
    { operand := inner.operandFrom
      joined := inner.joinedFrom
      conditional := inner.conditionalFrom
      assignment := inner.assignmentFrom }

def read (text : String) : Except Error Expression := do
  let signs := signs (text.length + 1) text.toList
  match ← (reader (4 * signs.length + 8)).assignment signs with
  | (e, []) => return e
  | _ => throw (.expecting "EOF")

/-! ## Values -/

def ofBool (b : Bool) : Int64 := if b then 1 else 0

def UnaryOperator.apply (operator : UnaryOperator) (n : Int64) : Int64 :=
  match operator with
  | .plus => n
  | .minus => -n
  | .not => ofBool (n = 0)
  | .complement => ~~~n

def BinaryOperator.apply (operator : BinaryOperator) (a b : Int64) : Except Error Int64 :=
  match operator with
  | .times => .ok (a * b)
  | .divide => if b = 0 then .error .divisionByZero else .ok (a / b)
  | .remainder => if b = 0 then .error .divisionByZero else .ok (a % b)
  | .plus => .ok (a + b)
  | .minus => .ok (a - b)
  | .shiftLeft => .ok (a <<< b)
  | .shiftRight => .ok (a >>> b)
  | .less => .ok (ofBool (a < b))
  | .lessOrEqual => .ok (ofBool (a ≤ b))
  | .greater => .ok (ofBool (b < a))
  | .greaterOrEqual => .ok (ofBool (b ≤ a))
  | .equal => .ok (ofBool (a = b))
  | .notEqual => .ok (ofBool (a ≠ b))
  | .bitAnd => .ok (a &&& b)
  | .bitXor => .ok (a ^^^ b)
  | .bitOr => .ok (a ||| b)

abbrev Assigned := List (String × Int64)

/-- The value of an expression. A variable that is unset or empty is zero. -/
def Expression.value (lookup : String → Option String) :
    Expression → StateT Assigned (Except Error) Int64
  | .number n => return n
  | .variable name => do
    match (← get).lookup name with
    | some n => return n
    | none =>
      let text := (lookup name).getD ""
      if text.toList.all isSpace then return 0
      match number? text with
      | some n => return n
      | none => throw (.illegalNumber text)
  | .unary operator e => return operator.apply (← e.value lookup)
  | .binary operator a b => do
    let left ← a.value lookup
    let right ← b.value lookup
    operator.apply left right
  | .and a b => do
    if (← a.value lookup) = 0 then return 0
    return ofBool ((← b.value lookup) ≠ 0)
  | .or a b => do
    if (← a.value lookup) ≠ 0 then return 1
    return ofBool ((← b.value lookup) ≠ 0)
  | .choice c a b => do
    if (← c.value lookup) ≠ 0 then a.value lookup else b.value lookup
  | .assign name e => do
    let n ← e.value lookup
    modify ((name, n) :: ·)
    return n

def Error.message (expression : String) : Error → String
  | .expecting what => "arithmetic expression: expecting " ++ what ++ ": \"" ++ expression ++ "\""
  | .divisionByZero => "arithmetic expression: division by zero: \"" ++ expression ++ "\""
  | .illegalNumber text => "Illegal number: " ++ text

end IngressPlane.Shell.Arithmetic
