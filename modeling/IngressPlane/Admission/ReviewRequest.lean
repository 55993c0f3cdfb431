import IngressPlane.Json.View
import IngressPlane.Resource.Meta

/-!
The request of an admission review: what it asks, and how it is read from the document of a review.
-/
namespace IngressPlane

structure ObjectKind where
  group : String
  version : String
  kind : String

/-- An object under review. Its specification is read only where its kind is known. -/
structure ReviewedObject where
  metadata : ObjectMeta
  spec : Option Json

structure ReviewRequest where
  /-- Version and kind of the review, which the answer repeats. -/
  version : String
  kind : String
  uid : String
  objectKind : ObjectKind
  object : Option ReviewedObject

/-! ## What is read of a review -/

namespace Json.View

def objectKind : View := only (names ["group", "version", "kind"])

def resourceName : View := only (names ["group", "version", "resource", "api_version"])

def userInfo : View := only (names ["extra", "groups", "uid", "username"])

def ownerReference : View :=
  only (names ["apiVersion", "blockOwnerDeletion", "controller", "kind", "name", "uid"])

def managedFields : View :=
  only (names [
    "apiVersion", "fieldsType", "fieldsV1", "manager", "operation", "subresource", "time"])

def objectMeta : View :=
  only <|
    ("managedFields", each managedFields) :: ("ownerReferences", each ownerReference)
      :: names [
        "annotations", "creationTimestamp", "deletionGracePeriodSeconds", "deletionTimestamp",
        "finalizers", "generateName", "generation", "labels", "name", "namespace",
        "resourceVersion", "selfLink", "uid"]

def reviewedObject : View := besides [("metadata", objectMeta)]

def reviewRequest : View :=
  only [
    ("uid", whole), ("kind", objectKind), ("resource", resourceName), ("subResource", whole),
    ("requestKind", objectKind), ("requestResource", resourceName), ("requestSubResource", whole),
    ("name", whole), ("namespace", whole), ("operation", whole), ("userInfo", userInfo),
    ("object", reviewedObject), ("oldObject", reviewedObject), ("dryRun", whole),
    ("options", whole)]

def statusCause : View := only (names ["reason", "message", "field"])

def statusDetails : View :=
  only (names ["name", "group", "kind", "uid"]
    ++ [("causes", each statusCause), ("retryAfterSeconds", whole)])

def status : View := only (names ["status", "code", "message", "reason"] ++ [("details", statusDetails)])

def reviewResponse : View :=
  only [
    ("uid", whole), ("allowed", whole), ("status", status), ("patch", whole), ("patchType", whole),
    ("auditAnnotations", whole), ("warnings", whole)]

def review : View := besides [("request", reviewRequest), ("response", reviewResponse)]

end Json.View

namespace Json.Decoder

/-- A record whose members may also be given as an array, in the order of `names`. The array has
at least `least` items. -/
def record (least : Nat) (names : List String) : Decoder (List (String × Json))
  | .array items =>
    if least ≤ items.length && items.length ≤ names.length then .ok (names.zip items)
    else .error (.expected "another number of members")
  | json => do
    let ms ← members json
    match names.find? fun name => 1 < (ms.filter (·.1 = name)).length with
    | some name => .error (.repeated name)
    | none => return ms

/-- A member that may be missing, but not `null`. -/
def unlessMissing {α : Type} (ms : List (String × Json)) (name : String) (value : Decoder α)
    (fallback : α) : Except Mismatch α :=
  match find? ms name with
  | none => .ok fallback
  | some json => value json

def unrepeated (ms : List (String × Json)) (name : String) : Except Mismatch Unit :=
  if 1 < (ms.filter (·.1 = name)).length then .error (.repeated name) else .ok ()

/-- One of the given names. It may also be the only member of an object, with nothing in it. -/
def oneOf (names : List String) : Decoder Unit := fun json => do
  let name ←
    match json with
    | .object [(name, .null)] => pure name
    | json => string json
  if names.contains name then .ok () else .error (.expected "one of a few names")

def objectKind : Decoder ObjectKind := fun json => do
  let ms ← record 3 ["group", "version", "kind"] json
  return {
    group := ← required ms "group" string
    version := ← required ms "version" string
    kind := ← required ms "kind" string }

def resourceName : Decoder Unit := fun json => do
  let ms ← record 3 ["group", "version", "resource", "api_version"] json
  let _ ← required ms "group" string
  let _ ← required ms "version" string
  let _ ← required ms "resource" string
  let _ ← unlessMissing ms "api_version" string ""

def userInfo : Decoder Unit := fun json => do
  let ms ← members json
  let _ ← optional ms "extra" (table (list string))
  let _ ← optional ms "groups" (list string)
  let _ ← optional ms "uid" string
  let _ ← optional ms "username" string

/-- Of the specification only the last of repeated members counts. -/
def reviewedObject : Decoder ReviewedObject := fun json => do
  let ms ← members json
  unrepeated ms "metadata"
  return {
    metadata := ← unlessMissing ms "metadata" objectMeta {}
    spec := (find? ms "spec").map settled }

def requestMembers : List String := [
  "uid", "kind", "resource", "subResource", "requestKind", "requestResource", "requestSubResource",
  "name", "namespace", "operation", "userInfo", "object", "oldObject", "dryRun", "options"]

def reviewRequest (version kind : String) : Decoder ReviewRequest := fun json => do
  let ms ← record 13 requestMembers json
  let _ ← required ms "resource" resourceName
  let _ ← optional ms "subResource" string
  let _ ← optional ms "requestKind" objectKind
  let _ ← optional ms "requestResource" resourceName
  let _ ← optional ms "requestSubResource" string
  let _ ← unlessMissing ms "name" string ""
  let _ ← optional ms "namespace" string
  let _ ← required ms "operation" (oneOf ["CREATE", "UPDATE", "DELETE", "CONNECT"])
  let _ ← required ms "userInfo" userInfo
  let _ ← optional ms "oldObject" reviewedObject
  let _ ← unlessMissing ms "dryRun" bool false
  return {
    version
    kind
    uid := ← required ms "uid" string
    objectKind := ← required ms "kind" objectKind
    object := ← optional ms "object" reviewedObject }

def statusCause : Decoder Unit := fun json => do
  let names := ["reason", "message", "field"]
  let ms ← record 0 names json
  names.forM fun name => do
    let _ ← unlessMissing ms name string ""

def statusDetails : Decoder Unit := fun json => do
  let texts := ["name", "group", "kind", "uid"]
  let ms ← record 0 (texts ++ ["causes", "retryAfterSeconds"]) json
  texts.forM fun name => do
    let _ ← unlessMissing ms name string ""
  let _ ← unlessMissing ms "causes" (list statusCause) []
  let _ ← unlessMissing ms "retryAfterSeconds" uint32 0

def status : Decoder Unit := fun json => do
  let ms ← record 0 ["status", "code", "message", "reason", "details"] json
  let _ ← optional ms "status" (oneOf ["Success", "Failure"])
  let _ ← unlessMissing ms "code" uint16 0
  let _ ← unlessMissing ms "message" string ""
  let _ ← unlessMissing ms "reason" string ""
  let _ ← optional ms "details" statusDetails

/-- A response next to the request has to be well-formed, and says nothing. -/
def reviewResponse : Decoder Unit := fun json => do
  let ms ← record 7
    ["uid", "allowed", "status", "patch", "patchType", "auditAnnotations", "warnings"] json
  let _ ← required ms "uid" string
  let _ ← required ms "allowed" bool
  let _ ← required ms "status" status
  let _ ← optional ms "patch" (list (bounded 0 255))
  let _ ← optional ms "patchType" (oneOf ["JSONPatch"])
  let _ ← unlessMissing ms "auditAnnotations" (table string) {}
  let _ ← optional ms "warnings" (list string)

/-- A review without a request is well-formed, but cannot be answered. -/
def review : Decoder (Option ReviewRequest) := fun json => do
  let ms ← members json
  ["apiVersion", "kind", "request", "response"].forM (unrepeated ms)
  let version ← required ms "apiVersion" string
  let kind ← required ms "kind" string
  let _ ← optional ms "response" reviewResponse
  optional ms "request" (reviewRequest version kind)

end Json.Decoder

end IngressPlane
