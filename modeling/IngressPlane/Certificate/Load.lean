import IngressPlane.Certificate.Pem
import IngressPlane.Certificate.X509
import IngressPlane.Resource.Secret

/-!
Loading a certificate from a secret with the entries `tls.crt` and `tls.key`.
-/
namespace IngressPlane

inductive LoadError
  | noPrivateKey (key : String)
  | invalid (key : String)
  deriving DecidableEq

def LoadError.message : LoadError → String
  | .noPrivateKey key => "secret " ++ key ++ " has no tls.key"
  | .invalid key => "secret " ++ key ++ " holds an invalid certificate"

def bundle (certificate privateKey : List UInt8) : List UInt8 :=
  (if certificate.getLast? = some 10 then certificate else certificate ++ [10]) ++ privateKey

/-- A secret without a certificate entry holds none, which is not an error. -/
def KeyPair.ofSecret (key : String) (secret : Secret) : Except LoadError (Option KeyPair) :=
  match secret.get? "tls.crt" with
  | none => .ok none
  | some text =>
    match secret.get? "tls.key" with
    | none => .error (.noPrivateKey key)
    | some privateKey =>
      match (Pem.certificate? text).bind X509.read? with
      | none => .error (.invalid key)
      | some (certificate, expiry) =>
        .ok (some ⟨key, bundle text privateKey, some certificate, expiry⟩)

end IngressPlane
