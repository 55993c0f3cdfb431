import IngressPlane.Json.Basic
import IngressPlane.Text.Decimal

/-!
The numerals of JSON. A numeral without fraction and exponent is an integer when it fits into 64
bits. Any other is a double: its leading digits, as many as fit into 64 bits, times a power of ten,
each rounded to a double before they are multiplied. It has no value when the product is too large.
-/
namespace IngressPlane.Json

open Text

/-- The number rounded to 53 significant bits, a half to the even neighbour. -/
def rounded (n : Nat) : Nat :=
  let unit := Nat.pow 2 (n.log2 - 52)
  let kept := n / unit
  let twice := n % unit * 2
  if unit < twice || (twice = unit && kept % 2 = 1) then (kept + 1) * unit else kept * unit

/-- The least number that rounds to no finite double: halfway beyond the largest one. -/
def doubleBound : Nat := Nat.pow 2 1024 - Nat.pow 2 970

def maxPower : Nat := 308

def exceedsDouble (mantissa : Nat) (exponent : Int) : Bool :=
  if mantissa = 0 || exponent ≤ 0 then false
  else if maxPower < exponent then true
  else doubleBound ≤ rounded mantissa * rounded (Nat.pow 10 exponent.toNat)

def real? (negative : Bool) (mantissa : Nat) (exponent : Int) : Option Json :=
  if exceedsDouble mantissa exponent then none
  else some (.real (if negative then -mantissa else mantissa) exponent)

def whole? (negative : Bool) (n : Nat) : Option Json :=
  if negative then
    if 0 < n && n ≤ Nat.pow 2 63 then some (.integer (-n)) else real? negative n 0
  else some (.integer n)

structure Numeral where
  negative : Bool
  whole : List Char
  fraction : Option (List Char)
  exponent : Option Int

def fraction? : List Char → Option (Option (List Char) × List Char)
  | '.' :: rest =>
    let digits := rest.takeWhile isDigit
    if digits.isEmpty then none else some (some digits, rest.dropWhile isDigit)
  | cs => some (none, cs)

def exponent? : List Char → Option (Option Int)
  | [] => some none
  | c :: rest => if c = 'e' || c = 'E' then (integer? rest).map some else none

def Numeral.unsigned? (negative : Bool) (cs : List Char) : Option Numeral :=
  let digits := cs.takeWhile isDigit
  if digits.isEmpty || (digits.head? = some '0' && digits.length ≠ 1) then none
  else do
    let (fraction, rest) ← fraction? (cs.dropWhile isDigit)
    return ⟨negative, digits, fraction, ← exponent? rest⟩

def Numeral.read? : List Char → Option Numeral
  | '-' :: rest => unsigned? true rest
  | cs => unsigned? false cs

/-- Appends digits to a number as long as it fits into 64 bits; the digits that are left do not
count towards it. -/
def gather (n : Nat) : List Char → Nat × List Char
  | [] => (n, [])
  | d :: ds =>
    let more := n * 10 + digitsValue [d]
    if more < Nat.pow 2 64 then gather more ds else (n, d :: ds)

/-- The value of a numeral, if it has one. -/
def Numeral.value? (n : Numeral) : Option Json :=
  let (mantissa, left) := gather 0 n.whole
  match n.fraction, n.exponent with
  | none, none =>
    if left.isEmpty then whole? n.negative mantissa else real? n.negative mantissa left.length
  | fraction, exponent =>
    let digits := fraction.getD []
    let (mantissa, unread) := gather mantissa digits
    let places : Int := (digits.length - unread.length : Nat)
    real? n.negative mantissa (left.length - places + exponent.getD 0)

end IngressPlane.Json
