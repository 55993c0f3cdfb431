import IngressPlane.Text.Search
import IngressPlane.Text.Decimal

/-!
IP addresses as text: four decimal octets, or the groups of RFC 5952.
-/
namespace IngressPlane

open Text

inductive Address
  | v4 (octets : Vector UInt8 4)
  | v6 (groups : Vector UInt16 8)
  deriving DecidableEq

namespace Address

def octet? (cs : List Char) : Option UInt8 :=
  match natural? cs with
  | some n =>
    if cs.length ≤ 3 && n ≤ 255 && (cs.head? ≠ some '0' || cs.length = 1) then some (UInt8.ofNat n)
    else none
  | none => none

def octets? (cs : List Char) : Option (Vector UInt8 4) :=
  match pieces '.' cs with
  | [a, b, c, d] => do return #v[← octet? a, ← octet? b, ← octet? c, ← octet? d]
  | _ => none

def hexValue? (c : Char) : Option Nat :=
  if '0' ≤ c && c ≤ '9' then some (c.toNat - 48)
  else if 'a' ≤ c && c ≤ 'f' then some (c.toNat - 87)
  else if 'A' ≤ c && c ≤ 'F' then some (c.toNat - 55)
  else none

def group? (cs : List Char) : Option UInt16 :=
  if cs.isEmpty || 4 < cs.length then none
  else (cs.mapM hexValue?).map fun ds => UInt16.ofNat (ds.foldl (fun n d => n * 16 + d) 0)

/-- The groups between colons; where `dotted` allows it, the last ones may be an IPv4 address. -/
def groups? (dotted : Bool) : List (List Char) → Option (List UInt16)
  | [] => some []
  | [last] =>
    match group? last with
    | some g => some [g]
    | none =>
      if dotted then (octets? last).map fun o =>
        [o[0].toUInt16 * 256 + o[1].toUInt16, o[2].toUInt16 * 256 + o[3].toUInt16]
      else none
  | head :: rest => do return (← group? head) :: (← groups? dotted rest)

/-- The groups on one side of a double colon; an empty side has none. -/
def side? (dotted : Bool) (cs : List Char) : Option (List UInt16) :=
  if cs.isEmpty then some [] else groups? dotted (pieces ':' cs)

def splitAtDoubleColon : List Char → Option (List Char × List Char)
  | ':' :: ':' :: rest => some ([], rest)
  | c :: rest => (splitAtDoubleColon rest).map fun (before, after) => (c :: before, after)
  | [] => none

def exactly8? (groups : List UInt16) : Option Address :=
  if h : groups.length = 8 then some (.v6 ⟨groups.toArray, by simp [h]⟩) else none

/-- A double colon stands for at least one group of zeros. -/
def v6? (cs : List Char) : Option Address :=
  match splitAtDoubleColon cs with
  | none => groups? true (pieces ':' cs) >>= exactly8?
  | some (before, after) => do
    let front ← side? false before
    let back ← side? true after
    guard (front.length + back.length ≤ 7)
    exactly8? (front ++ List.replicate (8 - front.length - back.length) 0 ++ back)

def read? (s : String) : Option Address :=
  match octets? s.toList with
  | some octets => some (.v4 octets)
  | none => v6? s.toList

def octetsText (octets : List Nat) : String := join "." (octets.map Nat.repr)

def groupText (g : UInt16) : String := String.ofList (Nat.toDigits 16 g.toNat)

def groupsText (groups : List UInt16) : String := join ":" (groups.map groupText)

def longestZeros (groups : List UInt16) : Nat × Nat :=
  (List.range groups.length).foldl (fun best start =>
    let run := ((groups.drop start).takeWhile (· = 0)).length
    if best.2 < run then (start, run) else best) (0, 0)

def text : Address → String
  | .v4 octets => octetsText (octets.toList.map UInt8.toNat)
  | .v6 groups =>
    match groups.toList with
    | [0, 0, 0, 0, 0, 0xFFFF, high, low] =>
      "::ffff:" ++ octetsText [high.toNat / 256, high.toNat % 256, low.toNat / 256, low.toNat % 256]
    | groups =>
      let (start, run) := longestZeros groups
      if run < 2 then groupsText groups
      else groupsText (groups.take start) ++ "::" ++ groupsText (groups.drop (start + run))

/-- The address in a certificate entry of four or sixteen bytes. -/
def ofBytes? : List UInt8 → Option Address
  | [a, b, c, d] => some (.v4 #v[a, b, c, d])
  | bytes =>
    if bytes.length = 16 then
      exactly8? ((List.range 8).map fun i =>
        (bytes.getD (2 * i) 0).toUInt16 * 256 + (bytes.getD (2 * i + 1) 0).toUInt16)
    else none

end Address
end IngressPlane
