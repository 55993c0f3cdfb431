/-!
DER: elements of a tag, a length and so many bytes of contents. Of BER, which also allows
elements without a length, there is what it takes to pass over one element.
-/
namespace IngressPlane

/-- An element without a length ends where an end mark stands in place of its next element. -/
inductive Der.Length
  | bytes (n : Nat)
  | open
  deriving DecidableEq

structure Der.Header where
  /-- Zero for universal tags, two for tags with a meaning from their context. -/
  tagClass : Nat
  /-- Set when the contents are said to be elements. -/
  constructed : Bool
  tag : Nat
  length : Der.Length
  deriving DecidableEq

structure Der where
  tagClass : Nat
  constructed : Bool
  tag : Nat
  contents : List UInt8
  deriving DecidableEq

namespace Der

def bigEndian (bytes : List UInt8) : Nat := bytes.foldl (fun n b => n * 256 + b.toNat) 0

/-- The number of a long tag: seven bits a byte, the last byte without the high bit. It takes up
to five bytes, and only its low 32 bits count. -/
def longTag? (bytes : List UInt8) : Option (Nat × List UInt8) :=
  let front := bytes.takeWhile (128 ≤ ·)
  match bytes.dropWhile (128 ≤ ·) with
  | last :: rest =>
    if 4 < front.length then none
    else some ((front ++ [last]).foldl (fun n b => n * 128 + b.toNat % 128) 0 % Nat.pow 2 32, rest)
  | [] => none

def length? : List UInt8 → Option (Length × List UInt8)
  | [] => none
  | b :: rest =>
    let n := b.toNat
    if n < 128 then some (.bytes n, rest)
    else if n = 128 then some (.open, rest)
    else
      let size := rest.take (n - 128)
      if n = 255 || size.length < n - 128 || Nat.pow 2 64 ≤ bigEndian size then none
      else some (.bytes (bigEndian size), rest.drop (n - 128))

def header? : List UInt8 → Option (Header × List UInt8)
  | [] => none
  | b :: rest => do
    let low := b.toNat % 32
    let (tag, rest) ← if low = 31 then longTag? rest else some (low, rest)
    let (length, rest) ← length? rest
    return (⟨b.toNat / 64, b.toNat / 32 % 2 = 1, tag, length⟩, rest)

/-- The first element and the bytes after it. -/
def read? (bytes : List UInt8) : Option (Der × List UInt8) := do
  let (header, rest) ← header? bytes
  match header.length with
  | .open => none
  | .bytes size =>
    let contents := rest.take size
    if contents.length < size then none
    else some (⟨header.tagClass, header.constructed, header.tag, contents⟩, rest.drop size)

/-- So many elements may be open within each other. -/
def maxOpen : Nat := 49

/-- Passes over elements until the given number of open ones has come to its end marks. -/
def skipOpen? (count : Nat) (bytes : List UInt8) : Option (List UInt8) :=
  if count = 0 then some bytes
  else
    match header? bytes with
    | none => none
    | some (header, rest) =>
      if rest.length < bytes.length then
        match header.length with
        | .open =>
          if header.constructed && count < maxOpen then skipOpen? (count + 1) rest else none
        | .bytes size =>
          if header.tag = 0 && size = 0 then skipOpen? (count - 1) rest
          else if rest.length < size then none
          else skipOpen? count (rest.drop size)
      else none
termination_by bytes.length
decreasing_by all_goals (try simp only [List.length_drop]); omega

/-- Passes over one element, which may be without a length if it is constructed. -/
def skip? (bytes : List UInt8) : Option (Header × List UInt8) := do
  let (header, rest) ← header? bytes
  match header.length with
  | .open => if header.constructed then return (header, ← skipOpen? 1 rest) else none
  | .bytes size => if rest.length < size then none else some (header, rest.drop size)

/-! ## Elements one after the other -/

abbrev Fields := StateT (List UInt8) Option

def element : Fields Der := fun bytes => read? bytes

def tagged (tag : Nat) : Fields Der := do
  let d ← element
  guard (d.tag = tag)
  return d

/-- Runs on the contents of an element; what is left of them is dropped. -/
def inside {α : Type} (d : Der) (fields : Fields α) : Fields α :=
  fun bytes => (fields.run d.contents).map fun (value, _) => (value, bytes)

def inSequence {α : Type} (fields : Fields α) : Fields α := do inside (← tagged 16) fields

def hasMore : Fields Bool := fun bytes => some (!bytes.isEmpty, bytes)

/-- The next element if it has this tag in its context, and no step otherwise. There is nothing
left, or an element. -/
def contextual? (tag : Nat) : Fields (Option Der) := fun bytes =>
  if bytes.isEmpty then some (none, bytes)
  else do
    let (d, rest) ← read? bytes
    if d.tag ≠ tag then return (none, bytes)
    guard (d.tagClass = 2)
    return (some d, rest)

/-- An object identifier is known by its place and not by its tag. -/
def objectId : Fields (List UInt8) := do
  let d ← element
  guard (!d.constructed)
  return d.contents

/-- The count of unused bits, which are zero, and then the bits. -/
def isBitString (contents : List UInt8) : Bool :=
  match contents with
  | [] => false
  | [unused] => unused = 0
  | unused :: bits => unused ≤ 8 && (bits.getLast?.getD 0).toNat % Nat.pow 2 unused.toNat = 0

def bitString : Fields Unit := do
  let d ← tagged 3
  guard (!d.constructed && isBitString d.contents)

def many {α : Type} (value : Fields α) (bytes : List UInt8) : List α × List UInt8 :=
  match value.run bytes with
  | none => ([], bytes)
  | some (a, rest) =>
    if rest.length < bytes.length then
      let (found, rest) := many value rest
      (a :: found, rest)
    else ([], bytes)
termination_by bytes.length

def all? {α : Type} (value : Fields α) (bytes : List UInt8) : Option (List α) :=
  let (found, rest) := many value bytes
  if rest.isEmpty then some found else none

end Der
end IngressPlane
