import IngressPlane.Certificate.Basic
import IngressPlane.Certificate.GeneralName
import IngressPlane.Certificate.Timestamp

/-!
Reading an X.509 certificate: its structure has to be sound, but signatures are not checked, and
bytes after it are not looked at.
-/
namespace IngressPlane.X509

open Der

/-- Only the kind of an algorithm counts. An element has to follow it if anything does. -/
def algorithm : Fields Unit := inSequence do
  let _ ← objectId
  if ← hasMore then
    let _ ← element

/-- A number of at most 32 bits, without a sign and in as few bytes as it takes. -/
def isVersion (d : Der) : Bool :=
  d.tag = 2 && !d.constructed &&
    match d.contents with
    | [] => false
    | first :: rest =>
      first < 128 && (first ≠ 0 || rest.isEmpty || (rest.headD 0) ≥ 128) && bigEndian d.contents < Nat.pow 2 32

def version : Fields Unit := do
  match ← contextual? 0 with
  | none => return
  | some d => inside d do guard (isVersion (← element))

/-- The serial number may be in the form without a length. -/
def serial : Fields Unit := fun bytes => do
  let (header, rest) ← skip? bytes
  guard (header.tag = 2)
  return ((), rest)

def time : Fields Instant := do
  let d ← element
  let cs := d.contents.map fun b => Char.ofNat b.toNat
  let read := if d.tag = 23 then Timestamp.short? cs else if d.tag = 24 then Timestamp.long? cs else none
  match read with
  | some t => return t
  | none => failure

/-- An identifier that may be left out; it has some contents. -/
def uniqueId (tag : Nat) : Fields Unit := do
  match ← contextual? tag with
  | none => return
  | some d => guard (!d.contents.isEmpty)

structure Extension where
  kind : List UInt8
  value : List UInt8
  deriving DecidableEq

/-- Between the kind and the value there may be a flag, whatever it says. -/
def extension : Fields Extension := inSequence do
  let kind ← objectId
  let next ← element
  let value ← if next.tag = 1 && next.contents.length = 1 then element else pure next
  guard (value.tag = 4 && !value.constructed)
  return ⟨kind, value.contents⟩

/-- The extensions at the end of a certificate: one sequence that fills the rest of it. The length
that is given in front of the sequence does not count. -/
def extensions : Fields (List Extension) := fun bytes =>
  if bytes.isEmpty then some ([], [])
  else do
    let (outer, rest) ← header? bytes
    guard (outer.tag = 3 && outer.length ≠ .open)
    let (list, rest) ← (tagged 16).run rest
    guard rest.isEmpty
    return (← all? extension list.contents, [])

structure Body where
  subject : List DistinguishedName.Attribute
  expiry : Instant
  extensions : List Extension

def body : Fields Body := inSequence do
  version
  serial
  algorithm
  let _ ← DistinguishedName.name
  let expiry ← inSequence (do let _ ← time; time)
  let subject ← DistinguishedName.name
  inSequence (do algorithm; bitString)
  uniqueId 1
  uniqueId 2
  return ⟨subject, expiry, ← extensions⟩

def certificate : Fields Body := inSequence do
  let result ← body
  algorithm
  bitString
  return result

def alternativeNamesKind : List UInt8 := [0x55, 0x1d, 0x11]

/-- The alternative names, none if there are not any. They are given once and can be read. -/
def Body.alternativeNames? (b : Body) : Option (List GeneralName) :=
  match b.extensions.filter (·.kind = alternativeNamesKind) with
  | [] => some []
  | [e] => GeneralName.list? e.value
  | _ => none

def read? (der : List UInt8) : Option (Certificate × Instant) := do
  let (body, _) ← certificate.run der
  let names ← body.alternativeNames?
  return (
    ⟨DistinguishedName.commonName body.subject, names.filterMap GeneralName.dns?,
      names.filterMap GeneralName.address?⟩,
    body.expiry)

end IngressPlane.X509
