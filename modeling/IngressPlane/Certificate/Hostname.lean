import IngressPlane.Certificate.Basic
import IngressPlane.Text.AsciiCase

/-!
Whether a certificate is valid for a host: addresses match its addresses, and names its DNS names,
where a wildcard stands for the whole first label only.
-/
namespace IngressPlane

open Text

inductive HostnameError
  | mismatch (host : String) (valid : List String)
  | noNames (host : String)
  deriving DecidableEq

def HostnameError.message : HostnameError → String
  | .mismatch host valid => "certificate is valid for " ++ join ", " valid ++ ", not " ++ host
  | .noNames host => "certificate is not valid for any names, but wanted to match " ++ host

namespace Certificate

def labels? (name : String) : Option (List (List Char)) :=
  let cs := dropTrailing (· = '.') name.toList
  if cs.isEmpty then none else some (pieces '.' cs)

def sameLabel (a b : List Char) : Bool := a.map Char.toLower == b.map Char.toLower

def labelsMatch : List (List Char) → List (List Char) → Bool
  | p :: ps, h :: hs =>
    ps.length == hs.length && ((p == ['*'] && !h.isEmpty) || sameLabel p h)
      && (ps.zip hs).all fun (a, b) => sameLabel a b
  | _, _ => false

def nameMatches (pattern host : String) : Bool :=
  match labels? pattern, labels? host with
  | some ps, some hs => labelsMatch ps hs
  | _, _ => false

def unbracketed (host : String) : String :=
  String.ofList (dropTrailing (· = ']') (host.toList.dropWhile (· = '[')))

/-- Takes the common name for a DNS name when `withCommonName` is set. -/
def verify (c : Certificate) (host : String) (withCommonName : Bool) : Except HostnameError Unit :=
  match Address.read? (unbracketed host) with
  | some address =>
    if c.addresses.contains address then .ok ()
    else .error (.mismatch host (c.addresses.map Address.text))
  | none =>
    let names := if withCommonName && c.commonName ≠ "" then c.dnsNames ++ [c.commonName] else c.dnsNames
    if names.isEmpty then .error (.noNames host)
    else if names.any (nameMatches · host) then .ok ()
    else .error (.mismatch host names)

end Certificate
end IngressPlane
