import IngressPlane.Json.Decode
import IngressPlane.Time.Instant

/-!
Object metadata: the name of an object, the namespace it lives in, its annotations, and when it was
created and deleted.
-/
namespace IngressPlane

structure ObjectMeta where
  annotations : Option (Table String) := none
  created : Option Instant := none
  deleted : Option Instant := none
  generateName : Option String := none
  labels : Option (Table String) := none
  name : Option String := none
  /-- The namespace. -/
  scope : Option String := none
  uid : Option String := none
  deriving DecidableEq

namespace ObjectMeta

/-- The name, or the stem of the name that is still to be generated. -/
def anyName (m : ObjectMeta) : String := (m.name.orElse fun _ => m.generateName).getD ""

def scopeText (m : ObjectMeta) : String := m.scope.getD ""

def uidText (m : ObjectMeta) : String := m.uid.getD ""

/-- `namespace/name`, or the name alone of an object without a namespace. -/
def resourceKey (m : ObjectMeta) : String :=
  match m.scope with
  | some scope => scope ++ "/" ++ m.anyName
  | none => m.anyName

def toJson (m : ObjectMeta) : Json :=
  let table (t : Table String) : Json := .object (t.mapEntries fun _ => Json.string).entries
  let time (t : Instant) : Json := .string t.wholeText
  .object <|
    Json.member? "annotations" table m.annotations
      ++ Json.member? "creationTimestamp" time m.created
      ++ Json.member? "deletionTimestamp" time m.deleted
      ++ Json.member? "generateName" .string m.generateName
      ++ Json.member? "labels" table m.labels
      ++ Json.member? "name" .string m.name
      ++ Json.member? "namespace" .string m.scope
      ++ Json.member? "uid" .string m.uid

end ObjectMeta

namespace Json.Decoder

def instant : Decoder Instant := fun json => do
  match Instant.read? (← string json) with
  | some t => return t
  | none => .error (.expected "a time")

def ownerReference : Decoder Unit := fun json => do
  let ms ← members json
  let _ ← optional ms "apiVersion" string
  let _ ← optional ms "blockOwnerDeletion" bool
  let _ ← optional ms "controller" bool
  let _ ← optional ms "kind" string
  let _ ← optional ms "name" string
  let _ ← optional ms "uid" string

def managedFields : Decoder Unit := fun json => do
  let ms ← members json
  let _ ← optional ms "apiVersion" string
  let _ ← optional ms "fieldsType" string
  let _ ← optional ms "manager" string
  let _ ← optional ms "operation" string
  let _ ← optional ms "subresource" string
  let _ ← optional ms "time" instant

/-- The standard members that are not kept have to be well-formed all the same. -/
def objectMeta : Decoder ObjectMeta := fun json => do
  let ms ← members json
  let _ ← optional ms "deletionGracePeriodSeconds" int64
  let _ ← optional ms "finalizers" (list string)
  let _ ← optional ms "generation" int64
  let _ ← optional ms "managedFields" (list managedFields)
  let _ ← optional ms "ownerReferences" (list ownerReference)
  let _ ← optional ms "resourceVersion" string
  let _ ← optional ms "selfLink" string
  return {
    annotations := ← optional ms "annotations" (table string)
    created := ← optional ms "creationTimestamp" instant
    deleted := ← optional ms "deletionTimestamp" instant
    generateName := ← optional ms "generateName" string
    labels := ← optional ms "labels" (table string)
    name := ← optional ms "name" string
    scope := ← optional ms "namespace" string
    uid := ← optional ms "uid" string }

end Json.Decoder
end IngressPlane
