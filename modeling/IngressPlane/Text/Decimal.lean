/-!
Decimal integers: how they are written, and the one form in which a bounded integer is read — one
optional sign, then ASCII digits, within its range.
-/
namespace IngressPlane.Text

def isDigit (c : Char) : Bool := '0' ≤ c && c ≤ '9'

def digitsValue (cs : List Char) : Nat := cs.foldl (fun n c => n * 10 + (c.toNat - 48)) 0

def natural? (cs : List Char) : Option Nat :=
  if cs.isEmpty || !cs.all isDigit then none else some (digitsValue cs)

def integer? : List Char → Option Int
  | '+' :: rest => (natural? rest).map Int.ofNat
  | '-' :: rest => (natural? rest).map fun n => -Int.ofNat n
  | cs => (natural? cs).map Int.ofNat

def inInt32 (n : Int) : Bool := -2147483648 ≤ n && n ≤ 2147483647

def int32? (s : String) : Option Int32 :=
  match integer? s.toList with
  | some n => if inInt32 n then some (Int32.ofInt n) else none
  | none => none

def decimal : Int → String
  | .ofNat n => n.repr
  | .negSucc n => "-" ++ (n + 1).repr

/-- A number of at least `width` digits, with zeros in front. -/
def padded (width n : Nat) : String :=
  let digits := Nat.toDigits 10 n
  String.ofList (List.replicate (width - digits.length) '0' ++ digits)

end IngressPlane.Text
