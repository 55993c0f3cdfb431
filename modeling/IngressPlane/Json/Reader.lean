import IngressPlane.Json.Token
import IngressPlane.Json.Number
import IngressPlane.Text.Utf8

/-!
Strict reading of JSON text, one character at a time: no comments, no trailing commas, no control
characters in strings, nothing after the document. A document that is read in full has a value for
each of its parts, and at most `depthLimit` containers inside one another.
-/
namespace IngressPlane.Json

def depthLimit : Nat := 127

/-- What the characters since the last complete token are. What has been collected is held last
first; of a string these are code points, which may be halves of surrogate pairs. -/
inductive Lexing
  | blank
  | word (chars : List Char)
  | text (units : List Nat)
  | escape (units : List Nat)
  | hex (units : List Nat) (digits : Nat) (value : Nat)

structure Reading where
  lexing : Lexing
  building : Building

def isJsonBlank (c : Char) : Bool := c = ' ' || c = '\n' || c = '\r' || c = '\t'

def isWordChar (c : Char) : Bool := c.isAlphanum || c = '-' || c = '+' || c = '.'

/-- A word that is no literal has to be a numeral, which may have no value. -/
def word? (chars : List Char) : Option (Option Json) :=
  if chars = ['t', 'r', 'u', 'e'] then some (some (.bool true))
  else if chars = ['f', 'a', 'l', 's', 'e'] then some (some (.bool false))
  else if chars = ['n', 'u', 'l', 'l'] then some (some .null)
  else (Numeral.read? chars).map Numeral.value?

def symbol? (c : Char) : Option Token :=
  if c = '[' then some .openArray
  else if c = ']' then some .closeArray
  else if c = '\x7b' then some .openObject
  else if c = '\x7d' then some .closeObject
  else if c = ',' then some .comma
  else if c = ':' then some .colon
  else none

/-- A character where no token is open. -/
def betweenTokens (b : Building) (c : Char) : Option Reading :=
  if isJsonBlank c then some ⟨.blank, b⟩
  else if c = '"' then some ⟨.text [], b⟩
  else if isWordChar c then some ⟨.word [c], b⟩
  else do
    let token ← symbol? c
    let b ← b.step token
    some ⟨.blank, b⟩

def endWord (chars : List Char) (b : Building) : Option Building := do
  let value ← word? chars.reverse
  b.step (.scalar value)

def plainEscape? (c : Char) : Option Char :=
  if c = '"' || c = '\\' || c = '/' then some c
  else if c = 'b' then some '\x08'
  else if c = 'f' then some '\x0c'
  else if c = 'n' then some '\n'
  else if c = 'r' then some '\r'
  else if c = 't' then some '\t'
  else none

def hexValue? (c : Char) : Option Nat :=
  if '0' ≤ c && c ≤ '9' then some (c.toNat - 48)
  else if 'a' ≤ c && c ≤ 'f' then some (c.toNat - 87)
  else if 'A' ≤ c && c ≤ 'F' then some (c.toNat - 55)
  else none

def isHighHalf (n : Nat) : Bool := 0xD800 ≤ n && n ≤ 0xDBFF

def isLowHalf (n : Nat) : Bool := 0xDC00 ≤ n && n ≤ 0xDFFF

/-- Puts the characters of a string, whose code points are given last first, in front of `done`. Two
halves of a pair in a row are one character, and a half alone is none. -/
def characters? (done : List Char) : List Nat → Option (List Char)
  | [] => some done
  | [n] => if isHighHalf n || isLowHalf n then none else some (Char.ofNat n :: done)
  | n :: high :: rest =>
    if isLowHalf n then
      if isHighHalf high then
        characters? (Char.ofNat (0x10000 + (high - 0xD800) * 0x400 + (n - 0xDC00)) :: done) rest
      else none
    else if isHighHalf n then none
    else characters? (Char.ofNat n :: done) (high :: rest)

def Reading.step (r : Reading) (c : Char) : Option Reading :=
  match r.lexing with
  | .blank => betweenTokens r.building c
  | .word chars =>
    if isWordChar c then some ⟨.word (c :: chars), r.building⟩
    else do betweenTokens (← endWord chars r.building) c
  | .text units =>
    if c = '"' then do
      let b ← r.building.step (.text ((characters? [] units).map String.ofList))
      some ⟨.blank, b⟩
    else if c = '\\' then some ⟨.escape units, r.building⟩
    else if c.toNat < 0x20 then none
    else some ⟨.text (c.toNat :: units), r.building⟩
  | .escape units =>
    if c = 'u' then some ⟨.hex units 0 0, r.building⟩
    else (plainEscape? c).map fun plain => ⟨.text (plain.toNat :: units), r.building⟩
  | .hex units digits value => do
    let n := value * 16 + (← hexValue? c)
    some ⟨if digits < 3 then .hex units (digits + 1) n else .text (n :: units), r.building⟩

def Reading.finish (r : Reading) : Option Written :=
  match r.lexing with
  | .blank => r.building.document?
  | .word chars => do (← endWord chars r.building).document?
  | _ => none

def written? (s : String) : Option Written := do
  (← s.toList.foldlM Reading.step ⟨.blank, .start⟩).finish

def read (s : String) : Option Json := do (← written? s).value? depthLimit

def readBytes (bytes : List UInt8) : Option Json := do read (← Text.decodeUtf8? bytes)

end IngressPlane.Json
