import IngressPlane.Time.Calendar
import IngressPlane.Text.Blank
import IngressPlane.Text.Decimal

/-!
Points in time, how they are read (RFC 3339), and the three ways in which they are written.
-/
namespace IngressPlane

open Text

/-- Seconds since 1970-01-01T00:00:00Z and a fraction in nanoseconds. During a leap second the
fraction is a whole second or more. -/
structure Instant where
  seconds : Int
  nanos : Nat
  deriving DecidableEq, Inhabited

namespace Instant

def before (a b : Instant) : Bool :=
  a.seconds < b.seconds || (a.seconds = b.seconds && a.nanos < b.nanos)

def addSeconds (t : Instant) (n : Int) : Instant := { t with seconds := t.seconds + n }

def digits? (n : Nat) (cs : List Char) : Option (Nat × List Char) :=
  let ds := cs.take n
  if ds.length = n && ds.all isDigit then some (digitsValue ds, cs.drop n) else none

def expect? (p : Char → Bool) : List Char → Option (List Char)
  | c :: rest => if p c then some rest else none
  | [] => none

def fromBlank (cs : List Char) : List Char := cs.dropWhile isBlank

/-- Reads from one to `width` digits, after blanks. -/
def number? (width : Nat) (cs : List Char) : Option (Nat × List Char) :=
  let cs := fromBlank cs
  let ds := (cs.take width).takeWhile isDigit
  if ds.isEmpty then none else some (digitsValue ds, cs.drop ds.length)

/-- A year has up to four digits, and any number of them after a sign. -/
def year? (cs : List Char) : Option (Int × List Char) :=
  match fromBlank cs with
  | '+' :: rest => do
    let (n, rest) ← signed? rest
    return ((n : Int), rest)
  | '-' :: rest => do
    let (n, rest) ← signed? rest
    return (-(n : Int), rest)
  | cs => (number? 4 cs).map fun (n, rest) => ((n : Int), rest)
where
  signed? (cs : List Char) : Option (Nat × List Char) :=
    let ds := cs.takeWhile isDigit
    if ds.isEmpty then none else some (digitsValue ds, cs.drop ds.length)

/-- A part of two digits at most, after a mark that blanks may precede. -/
def part? (mark : Char) (cs : List Char) : Option (Nat × List Char) := do
  number? 2 (← expect? (· = mark) (fromBlank cs))

def fraction? : List Char → Option (Nat × List Char)
  | '.' :: rest =>
    let ds := rest.takeWhile isDigit
    if ds.isEmpty then none
    else
      let nine := ds.take 9
      some (digitsValue nine * Nat.pow 10 (9 - nine.length), rest.dropWhile isDigit)
  | cs => some (0, cs)

/-- An offset from UTC in seconds: hours and minutes of two digits each, with colons or blanks
between them. -/
def shift? (cs : List Char) : Option (Int × List Char) := do
  let (hours, rest) ← digits? 2 cs
  let (minutes, rest) ← digits? 2 (rest.dropWhile fun c => c = ':' || isBlank c)
  guard (hours < 24 && minutes < 60)
  return ((hours * 3600 + minutes * 60 : Nat), rest)

/-- The offset from UTC: by name, or by a sign, for which the minus sign may stand, too. -/
def offset? : List Char → Option (Int × List Char)
  | [] => none
  | c :: rest =>
    if ((c :: rest).take 3).map Char.toUpper = ['U', 'T', 'C'] then some (0, rest.drop 2)
    else if c = 'Z' || c = 'z' then some (0, rest)
    else if c = '+' then shift? rest
    else if c = '-' || c = '\u2212' then (shift? rest).map fun (n, rest) => (-n, rest)
    else none

/-- The years for which there are points in time. -/
def isYear (year : Int) : Bool := -262143 ≤ year && year ≤ 262142

/-- Reads RFC 3339. Blanks may stand before each part, and numbers may lack their zeros. -/
def read? (s : String) : Option Instant := do
  let (year, rest) ← year? s.toList
  let (month, rest) ← part? '-' rest
  let (day, rest) ← part? '-' rest
  let date ← Calendar.date? year month day
  let (hour, rest) ← number? 2 (← expect? (fun c => c = 'T' || c = 't' || c = ' ') rest)
  let (minute, rest) ← part? ':' rest
  let (second, rest) ← part? ':' rest
  let (nanos, rest) ← fraction? rest
  let (offset, rest) ← offset? (fromBlank rest)
  guard (hour < 24 && minute < 60 && second ≤ 60 && (fromBlank rest).isEmpty)
  let time : Int := hour * 3600 + minute * 60 + min second 59
  let seconds := date.toDays * 86400 + time - offset
  guard (isYear year && isYear (Calendar.Date.ofDays (seconds / 86400)).year)
  some ⟨seconds, if second = 60 then nanos + 1000000000 else nanos⟩

/-- Years of other than four digits carry a sign. -/
def yearText (year : Int) : String :=
  if 0 ≤ year ∧ year ≤ 9999 then padded 4 year.toNat
  else (if year < 0 then "-" else "+") ++ padded 4 year.natAbs

def dateText (t : Instant) : String :=
  let date := Calendar.Date.ofDays (t.seconds / 86400)
  yearText date.year ++ "-" ++ padded 2 date.month ++ "-" ++ padded 2 date.day

def clockText (t : Instant) : String :=
  let second := (t.seconds % 86400).toNat
  padded 2 (second / 3600) ++ ":" ++ padded 2 (second / 60 % 60) ++ ":"
    ++ padded 2 (second % 60 + t.nanos / 1000000000)

/-- Three, six or nine digits, as few as show the whole fraction, and nothing for zero. -/
def fractionText (t : Instant) : String :=
  let n := t.nanos % 1000000000
  if n = 0 then ""
  else if n % 1000000 = 0 then "." ++ padded 3 (n / 1000000)
  else if n % 1000 = 0 then "." ++ padded 6 (n / 1000)
  else "." ++ padded 9 n

def text (t : Instant) : String := t.dateText ++ "T" ++ t.clockText ++ t.fractionText ++ "Z"

def wholeText (t : Instant) : String := t.dateText ++ "T" ++ t.clockText ++ "Z"

def plainText (t : Instant) : String :=
  t.dateText ++ " " ++ t.clockText ++ t.fractionText ++ " UTC"

end Instant
end IngressPlane
