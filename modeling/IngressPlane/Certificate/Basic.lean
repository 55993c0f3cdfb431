import IngressPlane.Json.Basic
import IngressPlane.Net.Address
import IngressPlane.Time.Instant

/-!
Certificates: the names that a certificate is valid for, and the key pair that a secret provides.
-/
namespace IngressPlane

/-- The parts of a certificate that hostname verification reads. -/
structure Certificate where
  commonName : String := ""
  dnsNames : List String := []
  addresses : List Address := []
  deriving DecidableEq

/-- A certificate with its private key, as loaded from the secret of that `namespace/name` key. -/
structure KeyPair where
  name : String
  pem : List UInt8
  certificate : Option Certificate
  expiry : Instant
  deriving DecidableEq

def Certificate.toJson (c : Certificate) : Json :=
  .object [
    ("commonName", .string c.commonName),
    ("dnsNames", .strings c.dnsNames),
    ("ipAddresses", .list (fun a => .string a.text) c.addresses)]

def KeyPair.toJson (k : KeyPair) : Json :=
  .object [
    ("name", .string k.name),
    ("pem", .list (fun b => .nat b.toNat) k.pem),
    ("certificate", .option Certificate.toJson k.certificate),
    ("expireTime", .string k.expiry.text)]

end IngressPlane
