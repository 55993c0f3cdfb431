/-!
UTF-8. Strict reading refuses broken sequences; reading with replacement turns each maximal part of
a broken sequence into one U+FFFD, so every byte sequence has a text.
-/
namespace IngressPlane.Text

def utf8Bytes (s : String) : List UInt8 := s.toUTF8.toList

def decodeUtf8? (bytes : List UInt8) : Option String := String.fromUTF8? ⟨bytes.toArray⟩

/-- Inside a sequence: `more` bytes are awaited, the next one between `low` and `high`. -/
structure Tail where
  more : Nat
  low : UInt8
  high : UInt8
  code : Nat

/-- What is left of the character just read: nothing, more bytes, or it cannot begin so. -/
inductive Lead
  | whole (c : Char)
  | opens (tail : Tail)
  | broken

def lead (b : UInt8) : Lead :=
  let n := b.toNat
  if n < 0x80 then .whole (Char.ofNat n)
  else if n < 0xC2 then .broken
  else if n < 0xE0 then .opens ⟨1, 0x80, 0xBF, n % 32⟩
  else if n = 0xE0 then .opens ⟨2, 0xA0, 0xBF, 0⟩
  else if n = 0xED then .opens ⟨2, 0x80, 0x9F, 13⟩
  else if n < 0xF0 then .opens ⟨2, 0x80, 0xBF, n % 16⟩
  else if n = 0xF0 then .opens ⟨3, 0x90, 0xBF, 0⟩
  else if n < 0xF4 then .opens ⟨3, 0x80, 0xBF, n % 8⟩
  else if n = 0xF4 then .opens ⟨3, 0x80, 0x8F, 4⟩
  else .broken

def replacement : Char := '\uFFFD'

/-- The characters read so far, the last one first, and the sequence that is still open. -/
structure Decoded where
  chars : List Char
  tail : Option Tail

def Decoded.begin (chars : List Char) (b : UInt8) : Decoded :=
  match lead b with
  | .whole c => ⟨c :: chars, none⟩
  | .opens tail => ⟨chars, some tail⟩
  | .broken => ⟨replacement :: chars, none⟩

def Decoded.push (d : Decoded) (b : UInt8) : Decoded :=
  match d.tail with
  | none => .begin d.chars b
  | some tail =>
    if tail.low ≤ b ∧ b ≤ tail.high then
      let code := tail.code * 64 + b.toNat % 64
      if tail.more ≤ 1 then ⟨Char.ofNat code :: d.chars, none⟩
      else ⟨d.chars, some ⟨tail.more - 1, 0x80, 0xBF, code⟩⟩
    else .begin (replacement :: d.chars) b

def Decoded.text (d : Decoded) : String :=
  String.ofList ((if d.tail.isSome then replacement :: d.chars else d.chars).reverse)

def decodeLossy (bytes : List UInt8) : String :=
  match decodeUtf8? bytes with
  | some s => s
  | none => (bytes.foldl Decoded.push ⟨[], none⟩).text

end IngressPlane.Text
