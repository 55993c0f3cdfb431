/-!
Base64 with the standard alphabet: groups of four characters, of which the last is padded or cut
off. Bits beyond the last byte are dropped.
-/
namespace IngressPlane.Base64

def value? (c : UInt8) : Option Nat :=
  let n := c.toNat
  if 65 ≤ n && n ≤ 90 then some (n - 65)
  else if 97 ≤ n && n ≤ 122 then some (n - 71)
  else if 48 ≤ n && n ≤ 57 then some (n + 4)
  else if n = 43 then some 62
  else if n = 47 then some 63
  else none

def pad : UInt8 := 61

def byte (n : Nat) : UInt8 := UInt8.ofNat n

def decode? : List UInt8 → Option (List UInt8)
  | [] => some []
  | [a, b] => return [byte ((← value? a) * 4 + (← value? b) / 16)]
  | [a, b, c] => do
    let x ← value? a
    let y ← value? b
    let z ← value? c
    some [byte (x * 4 + y / 16), byte (y % 16 * 16 + z / 4)]
  | [a, b, c, d] => do
    let x ← value? a
    let y ← value? b
    if d = pad then
      if c = pad then
        some [byte (x * 4 + y / 16)]
      else
        let z ← value? c
        some [byte (x * 4 + y / 16), byte (y % 16 * 16 + z / 4)]
    else
      let z ← value? c
      let w ← value? d
      some [byte (x * 4 + y / 16), byte (y % 16 * 16 + z / 4), byte (z % 4 * 64 + w)]
  | a :: b :: c :: d :: rest => do
    let x ← value? a
    let y ← value? b
    let z ← value? c
    let w ← value? d
    let more ← decode? rest
    some (byte (x * 4 + y / 16) :: byte (y % 16 * 16 + z / 4) :: byte (z % 4 * 64 + w) :: more)
  | _ => none

def symbol (n : Nat) : Char :=
  if n < 26 then Char.ofNat (n + 65)
  else if n < 52 then Char.ofNat (n + 71)
  else if n < 62 then Char.ofNat (n - 4)
  else if n = 62 then '+'
  else '/'

def encode : List UInt8 → List Char
  | [] => []
  | [a] => [symbol (a.toNat / 4), symbol (a.toNat % 4 * 16), '=', '=']
  | [a, b] =>
    [symbol (a.toNat / 4), symbol (a.toNat % 4 * 16 + b.toNat / 16), symbol (b.toNat % 16 * 4), '=']
  | a :: b :: c :: rest =>
    symbol (a.toNat / 4) :: symbol (a.toNat % 4 * 16 + b.toNat / 16)
      :: symbol (b.toNat % 16 * 4 + c.toNat / 64) :: symbol (c.toNat % 64) :: encode rest

end IngressPlane.Base64
