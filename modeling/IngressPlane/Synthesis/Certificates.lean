import IngressPlane.Certificate.Hostname
import IngressPlane.Resource.Ingress
import IngressPlane.Store.Basic
import IngressPlane.Synthesis.Diagnostic
import IngressPlane.Text.LowerCase

/-!
The certificate that is served for a host: one that the TLS section of an ingress provides and that
is valid for the host, and the default certificate otherwise.
-/
namespace IngressPlane

open Text

def TlsEntry.lists (e : TlsEntry) (host : String) : Bool :=
  (e.hosts.getD []).any fun h => lower h = lower host

namespace Store

def serves (store : Store) (key host : String) : Bool :=
  match store.keyPair key with
  | .error _ => false
  | .ok keyPair =>
    match keyPair.certificate with
    | none => false
    | some certificate => (certificate.verify host false).isOk

/-- The secret for a host: that of the first entry that lists the host, whatever it holds, and else
the first one whose certificate is valid for the host. -/
def secretNameFor (store : Store) (host scope : String) (tls : List TlsEntry) : Option String :=
  match tls.find? (·.lists host) with
  | some entry => entry.secretName
  | none =>
    ((tls.filterMap (·.secretName)).filter (· ≠ "")).find? fun secret =>
      store.serves (scope ++ "/" ++ secret) host

end Store

/-- Accepts the common name where the alternative names do not match. -/
def Certificate.accepts (c : Certificate) (host : String) : Except HostnameError Unit :=
  match c.verify host false with
  | .ok () => .ok ()
  | .error _ => c.verify host true

/-- Certificates that expire within ten days are reported. -/
def expiryWarning : Int := 240 * 3600

def KeyPair.expiryNote? (k : KeyPair) (host : String) (now : Instant) : Option Diagnostic :=
  if k.expiry.before now then some (.certificateExpired host k.name k.expiry)
  else if k.expiry.before (now.addSeconds expiryWarning) then
    some (.certificateExpiring host k.name k.expiry)
  else none

namespace Store

def provided (store : Store) (host : String) (ingress : Ingress) : Except String KeyPair := do
  let scope := ingress.metadata.scopeText
  match store.secretNameFor host scope ingress.spec.tlsList with
  | none => .error "no TLS secret matches the host"
  | some secret =>
    let key := scope ++ "/" ++ secret
    let keyPair ← (store.keyPair key).mapError fun e =>
      "failed to load secret " ++ key ++ ": " ++ e.message
    match keyPair.certificate with
    | none => .error ("secret " ++ key ++ " holds no parsed certificate")
    | some certificate =>
      let _ ← (certificate.accepts host).mapError fun e => "secret " ++ key ++ ": " ++ e.message
      return keyPair

def certificateFor (store : Store) (now : Instant) (host : String) (ingress : Ingress) :
    Option KeyPair × List Diagnostic :=
  match store.provided host ingress with
  | .error reason => (store.defaultKeyPair, [.defaultCertificate host reason])
  | .ok keyPair => (some keyPair, (keyPair.expiryNote? host now).toList)

end Store
end IngressPlane
