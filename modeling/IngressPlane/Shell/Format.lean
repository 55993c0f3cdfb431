import IngressPlane.Shell.Arithmetic
import IngressPlane.Text.Search

/-!
Written output: backslashes in text, and formats whose directives take the place of arguments. A
format is used again as long as there are arguments that it takes.
-/
namespace IngressPlane.Shell.Format

open Arithmetic (isOctal isHexDigit valueIn constant?)

/-! ## Backslashes -/

def escapes : List (Char × Char) := [
  ('n', '\n'), ('t', '\t'), ('r', '\r'), ('a', '\x07'), ('b', '\x08'), ('v', '\x0b'), ('f', '\x0c'),
  ('e', '\x1b'), ('\\', '\\')]

def octal (cs : List Char) : Char × List Char :=
  let digits := (cs.take 3).takeWhile isOctal
  (Char.ofNat (valueIn 8 digits % 256), cs.drop digits.length)

/-- What a backslash makes of the characters after it. By itself it stands for itself. -/
def backslashed (cs : List Char) : Char × List Char :=
  match cs with
  | [] => ('\\', [])
  | c :: rest =>
    if isOctal c then octal cs
    else
      match escapes.lookup c with
      | some octet => (octet, rest)
      | none => ('\\', cs)

/-- A text with its backslashes resolved, and whether `\c` has ended it. An octal number may have one
more zero in front. -/
def resolved : Nat → List Char → List Char × Bool
  | 0, _ => ([], false)
  | _, [] => ([], false)
  | _ + 1, '\\' :: 'c' :: _ => ([], true)
  | fuel + 1, '\\' :: rest =>
    let digits := match rest with
      | '0' :: d :: more => if isOctal d then d :: more else rest
      | _ => rest
    let (octet, rest) := backslashed digits
    let (more, ended) := resolved fuel rest
    (octet :: more, ended)
  | fuel + 1, c :: rest =>
    let (more, ended) := resolved fuel rest
    (c :: more, ended)

def resolvedText (text : String) : String × Bool :=
  let (chars, ended) := resolved (text.length + 1) text.toList
  (String.ofList chars, ended)

def echoed : List String → String
  | "-n" :: words => (resolvedText (Text.join " " words)).1
  | words =>
    let (text, ended) := resolvedText (Text.join " " words)
    if ended then text else text ++ "\n"

/-! ## Formats -/

inductive Measure
  | unset
  | given (n : Nat)
  | argument

inductive Part
  | octet (c : Char)
  | directive (flags : List Char) (width precision : Measure) (conversion : Char)
  /-- What ends all output. -/
  | mistake (reason : String)

def isFlag (c : Char) : Bool := ['#', '-', '+', ' ', '0'].contains c

def measure (cs : List Char) : Measure × List Char :=
  match cs with
  | '*' :: rest => (.argument, rest)
  | _ =>
    let digits := cs.takeWhile Text.isDigit
    (if digits.isEmpty then .unset else .given (Text.digitsValue digits), cs.drop digits.length)

def conversions : List Char := ['b', 'c', 's', 'd', 'i', 'o', 'u', 'x', 'X']

def directive (cs : List Char) : Part × List Char :=
  let flags := cs.takeWhile isFlag
  let (width, rest) := measure (cs.drop flags.length)
  let (precision, rest) := match rest with
    | '.' :: rest =>
      let (precision, rest) := measure rest
      (match precision with
        | .unset => .given 0
        | found => found, rest)
    | rest => (.unset, rest)
  match rest with
  | [] => (.mistake "missing format character", [])
  | c :: after =>
    if conversions.contains c then (.directive flags width precision c, after)
    else
      let shown := String.ofList ('%' :: cs.take (cs.length - after.length))
      (.mistake (shown ++ ": invalid directive"), [])

def parts : Nat → List Char → List Part
  | 0, _ => []
  | _, [] => []
  | fuel + 1, '\\' :: rest =>
    let (octet, rest) := backslashed rest
    .octet octet :: parts fuel rest
  | fuel + 1, '%' :: '%' :: rest => .octet '%' :: parts fuel rest
  | fuel + 1, '%' :: rest =>
    let (part, rest) := directive rest
    part :: parts fuel rest
  | fuel + 1, c :: rest => .octet c :: parts fuel rest

/-! ## Numbers -/

def leading? (argument : List Char) : Option (Int × List Char) :=
  match argument.dropWhile isSpace with
  | '-' :: cs => (constant? cs).map fun (n, rest) => (-n, rest)
  | '+' :: cs => (constant? cs).map fun (n, rest) => ((n : Int), rest)
  | cs => (constant? cs).map fun (n, rest) => ((n : Int), rest)

def clamp (low high n : Int) : Int := max low (min high n)

/-- The number that an argument stands for, within bounds, and a complaint about it. A character after
a quotation mark stands for its number. -/
def number (signed : Bool) (argument : String) : Int × Option String :=
  let (low, high) : Int × Int :=
    if signed then (-Int.pow 2 63, Int.pow 2 63 - 1) else (-(Int.pow 2 64 - 1), Int.pow 2 64 - 1)
  match argument.toList with
  | [] => (0, none)
  | c :: rest =>
    if c = '"' || c = '\'' then (((rest.head?).map fun d => (d.toNat : Int)).getD 0, none)
    else
      match leading? (c :: rest) with
      | none => (0, some (argument ++ ": expected numeric value"))
      | some (n, after) =>
        let bounded := clamp low high n
        (bounded,
          if !after.isEmpty then some (argument ++ ": not completely converted")
          else if bounded ≠ n then some (argument ++ ": Numerical result out of range")
          else none)

/-! ## Fields -/

structure Layout where
  flags : List Char := []
  width : Nat := 0
  precision : Option Nat := none

def Layout.has (layout : Layout) (flag : Char) : Bool := layout.flags.contains flag

def Layout.pad (layout : Layout) (chars : List Char) : List Char :=
  let blanks := List.replicate (layout.width - chars.length) ' '
  if layout.has '-' then chars ++ blanks else blanks ++ chars

def Layout.text (layout : Layout) (chars : List Char) : List Char :=
  layout.pad ((layout.precision.map chars.take).getD chars)

/-- Digits after a sign or mark. Zeros fill up the precision, or the width where there is none. -/
def Layout.digits (layout : Layout) (mark digits : List Char) : List Char :=
  let shown := if layout.precision = some 0 && digits = ['0'] then [] else digits
  let least :=
    match layout.precision with
    | some n => n
    | none => if layout.has '0' && !layout.has '-' then layout.width - mark.length else 0
  layout.pad (mark ++ List.replicate (least - shown.length) '0' ++ shown)

def Layout.signed (layout : Layout) (n : Int) : List Char :=
  let mark := if n < 0 then ['-'] else if layout.has '+' then ['+']
    else if layout.has ' ' then [' '] else []
  layout.digits mark (Nat.toDigits 10 n.natAbs)

def Layout.unsigned (layout : Layout) (conversion : Char) (n : Nat) : List Char :=
  if conversion = 'o' then
    let digits := Nat.toDigits 8 n
    layout.digits [] (if layout.has '#' && n ≠ 0 then '0' :: digits else digits)
  else if conversion = 'x' then
    layout.digits (if layout.has '#' && n ≠ 0 then ['0', 'x'] else []) (Nat.toDigits 16 n)
  else if conversion = 'X' then
    layout.digits (if layout.has '#' && n ≠ 0 then ['0', 'X'] else [])
      ((Nat.toDigits 16 n).map Char.toUpper)
  else layout.digits [] (Nat.toDigits 10 n)

/-! ## Writing -/

structure Writing where
  output : String := ""
  arguments : List String
  complaints : List String := []
  ended : Bool := false
  /-- Why the format makes no sense. -/
  mistake : Option String := none

namespace Writing

def write (w : Writing) (chars : List Char) : Writing :=
  { w with output := w.output ++ String.ofList chars }

def isOpen (w : Writing) : Bool := !w.ended && w.mistake.isNone

def takeNumber (signed : Bool) (w : Writing) : Int × Writing :=
  let (n, complaint) := number signed (w.arguments.headD "")
  (n, { w with
    arguments := w.arguments.drop 1
    complaints := w.complaints ++ complaint.toList })

def takeMeasure (measure : Measure) (w : Writing) : Option Int × Writing :=
  match measure with
  | .unset => (none, w)
  | .given n => (some n, w)
  | .argument =>
    let (n, w) := w.takeNumber true
    (some n, w)

def convert (layout : Layout) (conversion : Char) (w : Writing) : Writing :=
  let argument := w.arguments.headD ""
  let after : Writing := { w with arguments := w.arguments.drop 1 }
  if conversion = 's' then after.write (layout.text argument.toList)
  else if conversion = 'c' then after.write (layout.pad [argument.toList.headD '\x00'])
  else if conversion = 'b' then
    let (text, ended) := resolvedText argument
    { after.write (layout.text text.toList) with ended }
  else if conversion = 'd' || conversion = 'i' then
    let (n, w) := w.takeNumber true
    w.write (layout.signed n)
  else
    let (n, w) := w.takeNumber false
    w.write (layout.unsigned conversion (n % Int.pow 2 64).toNat)

def part (w : Writing) (p : Part) : Writing :=
  if !w.isOpen then w
  else
    match p with
    | .octet c => w.write [c]
    | .mistake reason => { w with mistake := some reason }
    | .directive flags width precision conversion =>
      let (width, w) := w.takeMeasure width
      let (precision, w) := w.takeMeasure precision
      let flags := if width.any (· < 0) then '-' :: flags else flags
      w.convert ⟨flags, (width.getD 0).natAbs, (precision.filter (0 ≤ ·)).map Int.toNat⟩ conversion

def rounds (format : List Part) : Nat → Writing → Writing
  | 0, w => w
  | fuel + 1, w =>
    let after := format.foldl part w
    if after.isOpen && !after.arguments.isEmpty && after.arguments.length < w.arguments.length then
      rounds format fuel after
    else after

end Writing

def formatted (format : String) (arguments : List String) : Writing :=
  let cs := format.toList
  Writing.rounds (parts (cs.length + 1) cs) (arguments.length + 1) { arguments }

end IngressPlane.Shell.Format
