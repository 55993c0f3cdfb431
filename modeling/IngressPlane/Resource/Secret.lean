import IngressPlane.Encoding.Base64
import IngressPlane.Resource.Meta
import IngressPlane.Text.Utf8

/-!
Secrets: named byte strings, base64 on the wire.
-/
namespace IngressPlane

structure Secret where
  data : Option (Table (List UInt8)) := none
  metadata : ObjectMeta := {}
  kind : Option String := none
  deriving DecidableEq

def Secret.get? (s : Secret) (name : String) : Option (List UInt8) := s.data.bind (·.get? name)

def Secret.toJson (s : Secret) : Json :=
  let base64 (bytes : List UInt8) : Json := .string (String.ofList (Base64.encode bytes))
  .object (("apiVersion", .string "v1") :: ("kind", .string "Secret")
    :: Json.member? "data" (fun t => .object (t.map base64).entries) s.data
    ++ ("metadata", s.metadata.toJson) :: Json.member? "type" .string s.kind)

namespace Json.Decoder

def base64 : Decoder (List UInt8) := fun json => do
  match Base64.decode? (Text.utf8Bytes (← string json)) with
  | some bytes => return bytes
  | none => .error (.expected "base64")

def secret : Decoder Secret := fun json => do
  let ms ← members json
  return {
    data := ← optional ms "data" (table base64)
    metadata := ← orElse ms "metadata" objectMeta {}
    kind := ← optional ms "type" string }

end Json.Decoder
end IngressPlane
