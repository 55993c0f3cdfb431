import IngressPlane.Shell.Filters
import IngressPlane.Shell.Pattern

/-!
Programs that calculate: `expr`, whose words are the signs of an expression, and `seq`.
-/
namespace IngressPlane.Shell

open Text

namespace Calculation

inductive Mistake
  | missingAfter (word : String)
  | unexpected (word : String)
  | closingAfter (word : String)
  | unexpectedClosing
  | notInteger
  | divisionByZero
  | pattern (error : PatternError)
  deriving DecidableEq

def Mistake.message : Mistake → String
  | .missingAfter word => "syntax error: missing argument after " ++ inQuotes word
  | .unexpected word => "syntax error: unexpected argument " ++ inQuotes word
  | .closingAfter word => "syntax error: expecting ')' after " ++ inQuotes word
  | .unexpectedClosing => "syntax error: unexpected ')'"
  | .notInteger => "non-integer argument"
  | .divisionByZero => "division by zero"
  | .pattern error => error.message

structure Place where
  words : List String
  last : String

abbrev Reading := StateT Place (Except Mistake)

def integerOf? (word : String) : Option Int :=
  match word.toList with
  | '+' :: _ => none
  | cs => integer? cs

def isNull (value : String) : Bool :=
  value = "" || integerOf? value = some 0

def integer (value : String) : Except Mistake Int :=
  match integerOf? value with
  | some n => .ok n
  | none => .error .notInteger

def matched (value pattern : String) : Except Mistake String :=
  match pattern? .basic pattern with
  | .error e => .error (.pattern e)
  | .ok (r, _) =>
    let text := value.toList.toArray
    let grouped := pattern.toList.zip (pattern.toList.drop 1) |>.contains ('\\', '(')
    match r.ends text 0 with
    | [] => .ok (if grouped then "" else "0")
    | c :: cs =>
      let best := cs.foldl (fun best c => if best.place < c.place then c else best) c
      if grouped then
        .ok (match best.groups.lookup 1 with
          | some (start, finish) => String.ofList (text.extract start finish).toList
          | none => "")
      else .ok best.place.repr

def comparison? (operator : String) : Option (Ordering → Bool) :=
  if operator = "<" then some (· = .lt)
  else if operator = "<=" then some (· ≠ .gt)
  else if operator = "=" || operator = "==" then some (· = .eq)
  else if operator = "!=" then some (· ≠ .eq)
  else if operator = ">=" then some (· ≠ .lt)
  else if operator = ">" then some (· = .gt)
  else none

def closeness? (operator : String) : Option Nat :=
  if operator = "|" then some 1
  else if operator = "&" then some 2
  else if (comparison? operator).isSome then some 3
  else if operator = "+" || operator = "-" then some 4
  else if ["*", "/", "%"].contains operator then some 5
  else if operator = ":" then some 6
  else none

def apply (operator a b : String) : Except Mistake String := do
  if operator = "|" then return if !isNull a then a else if !isNull b then b else "0"
  if operator = "&" then return if isNull a || isNull b then "0" else a
  if operator = ":" then matched a b
  else
    match comparison? operator with
    | some holds =>
      let order := match integerOf? a, integerOf? b with
        | some m, some n => compare m n
        | _, _ => compare a b
      return if holds order then "1" else "0"
    | none =>
      let m ← integer a
      let n ← integer b
      if operator = "+" then return decimal (m + n)
      if operator = "-" then return decimal (m - n)
      if operator = "*" then return decimal (m * n)
      if n = 0 then throw .divisionByZero
      return decimal (if operator = "/" then Int.tdiv m n else Int.tmod m n)

def next : Reading String := do
  match ← get with
  | ⟨[], last⟩ => throw (.missingAfter last)
  | ⟨word :: rest, _⟩ =>
    set (⟨rest, word⟩ : Place)
    return word

mutual

def operand : Nat → Reading String
  | 0 => return ""
  | fuel + 1 => do
    let word ← next
    if word = "(" then
      let value ← joined fuel 1 (← operand fuel)
      match (← get).words with
      | ")" :: rest =>
        modify fun place => { place with words := rest, last := ")" }
        return value
      | _ => throw (.closingAfter (← get).last)
    if word = ")" then throw .unexpectedClosing
    if word = "+" then next
    else if word = "length" then return (← operand fuel).length.repr
    else if word = "match" then
      let value ← operand fuel
      matched value (← operand fuel)
    else if word = "index" then
      let value ← operand fuel
      let wanted ← operand fuel
      let before := (value.toList.takeWhile fun c => !wanted.toList.contains c).length
      return (if before = value.length then 0 else before + 1).repr
    else if word = "substr" then
      let value ← operand fuel
      let start := integerOf? (← operand fuel)
      let count := integerOf? (← operand fuel)
      match start, count with
      | some start, some count =>
        if start ≤ 0 || count ≤ 0 then return ""
        return String.ofList ((value.toList.drop (start.toNat - 1)).take count.toNat)
      | _, _ => return ""
    else return word

def joined : Nat → Nat → String → Reading String
  | 0, _, left => return left
  | fuel + 1, level, left => do
    match (← get).words.head? with
    | none => return left
    | some operator =>
      match closeness? operator with
      | none => return left
      | some closeness =>
        if closeness < level then return left
        let operator ← next
        let right ← joined fuel (closeness + 1) (← operand fuel)
        joined fuel level (← apply operator left right)

end

def value (words : List String) : Except Mistake String := do
  let fuel := 4 * words.length + 8
  let (value, place) ← (do joined fuel 1 (← operand fuel) : Reading String).run ⟨words, ""⟩
  match place.words with
  | [] => return value
  | ")" :: _ => throw .unexpectedClosing
  | word :: _ => throw (.unexpected word)

end Calculation

def expr : Program := fun words m =>
  let words := if words.head? = some "--" then words.drop 1 else words
  if words.isEmpty then (misuse "expr" m "missing operand").withStatus 2
  else
    match Calculation.value words with
    | .error mistake => (m.report "expr" mistake.message).withStatus 2
    | .ok value => (m.say (value ++ "\n")).withStatus (if Calculation.isNull value then 1 else 0)

def arithmeticSequence (first step last : Int) : List Int :=
  let count := if step = 0 then 0 else (Int.fdiv (last - first) step + 1).toNat
  (List.range count).map fun (n : Nat) => first + step * (n : Int)

def seq : Program := fun words m =>
  let (separator, equal, words) := match words with
    | "-w" :: rest => ("\n", true, rest)
    | "-s" :: s :: rest => (s, false, rest)
    | word :: rest =>
      match word.toList with
      | '-' :: 's' :: s => (String.ofList s, false, rest)
      | _ => ("\n", false, word :: rest)
    | [] => ("\n", false, [])
  let write (first step last : Int) : Machine :=
    let numbers := (arithmeticSequence first step last).map decimal
    let width := (numbers.map String.length).max?.getD 0
    let shown := if equal then
        numbers.map fun s => String.ofList (List.replicate (width - s.length) '0') ++ s
      else numbers
    (m.say (if shown.isEmpty then "" else join separator shown ++ "\n")).withStatus 0
  match words.find? fun word => (integer? word.toList).isNone with
  | some word => misuse "seq" m ("invalid floating point argument: " ++ inQuotes word)
  | none =>
    match words.filterMap fun word => integer? word.toList with
    | [] => misuse "seq" m "missing operand"
    | [last] => write 1 1 last
    | [first, last] => write first 1 last
    | [first, step, last] =>
      if step = 0 then misuse "seq" m ("invalid Zero increment value: " ++ inQuotes (words[1]?.getD ""))
      else write first step last
    | _ => misuse "seq" m ("extra operand " ++ inQuotes (words[3]?.getD ""))

end IngressPlane.Shell
