import IngressPlane.Encoding.Base64
import IngressPlane.Text.Utf8

/-!
PEM text: sections between a begin line and an end line of the same label, with base64 between
them. Text outside of sections and sections of unknown labels are passed over.
-/
namespace IngressPlane.Pem

open Text (utf8Bytes)

def isNewline (b : UInt8) : Bool := b = 10 || b = 13

/-- The lines, each ended by a line feed or a carriage return, which are dropped. -/
def lines (bytes : List UInt8) : List (List UInt8) :=
  (bytes.foldr (fun b acc =>
    match acc with
    | [] => if isNewline b then [[], []] else [[b]]
    | line :: rest => if isNewline b then [] :: line :: rest else (b :: line) :: rest) [[]])

def ascii (s : String) : List UInt8 := utf8Bytes s

def beginMark : List UInt8 := ascii "-----BEGIN "
def endMark : List UInt8 := ascii "-----END "
def dashes : List UInt8 := ascii "-----"

/-- The labels whose sections hold base64 that has to be sound. -/
def knownLabels : List String := [
  "CERTIFICATE", "PUBLIC KEY", "RSA PRIVATE KEY", "PRIVATE KEY", "EC PRIVATE KEY", "X509 CRL",
  "CERTIFICATE REQUEST", "ECHCONFIG"]

def isBlank (b : UInt8) : Bool := b = 32 || (9 ≤ b && b ≤ 13)

/-- The label of a begin line. It ends in exactly five dashes, and blanks may stand among and after
them. -/
def label? (line : List UInt8) : Option (List UInt8) :=
  let trailer := line.reverse.takeWhile fun b => b = 45 || b = 32
  if (trailer.filter (· = 45)).length ≠ 5 then none
  else
    let kept := line.length - (trailer.reverse.dropWhile (· = 32)).length
    some ((line.take kept).drop beginMark.length)

structure Scan where
  label : Option (List UInt8) := none
  body : List UInt8 := []

inductive Outcome
  | goOn (scan : Scan)
  | section (label : List UInt8) (contents : List UInt8)
  | broken

def Scan.line (scan : Scan) (line : List UInt8) : Outcome :=
  if beginMark.isPrefixOf line then
    match label? line with
    | none => .broken
    | some label => .goOn { scan with label := some label }
  else
    match scan.label with
    | none => .goOn scan
    | some label =>
      if (endMark ++ label ++ dashes).isPrefixOf line then
        if knownLabels.any fun known => ascii known = label then
          match Base64.decode? (scan.body.filter (!isBlank ·)) with
          | none => .broken
          | some contents => .section label contents
        else .goOn {}
      else .goOn { scan with body := scan.body ++ line }

/-- The contents of the first certificate section, unless a broken section comes before its end. -/
def firstCertificate : Scan → List (List UInt8) → Option (List UInt8)
  | _, [] => none
  | scan, line :: rest =>
    match scan.line line with
    | .broken => none
    | .goOn scan => firstCertificate scan rest
    | .section label contents =>
      if label = ascii "CERTIFICATE" then some contents else firstCertificate {} rest

def certificate? (bytes : List UInt8) : Option (List UInt8) := firstCertificate {} (lines bytes)

end IngressPlane.Pem
