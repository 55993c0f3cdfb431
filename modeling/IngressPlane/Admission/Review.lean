import IngressPlane.Admission.ReviewRequest
import IngressPlane.Admission.Validator
import IngressPlane.Json.Reader
import IngressPlane.Net.Uri
import IngressPlane.Store.Watch
import IngressPlane.Text.AsciiCase

/-!
The admission webhook: reviews that ask, by an HTTP request, whether an object may be admitted, and
the answers to them.
-/
namespace IngressPlane

open Text

inductive InvalidReview
  | notJson
  | unreadable (mismatch : Json.Mismatch)
  | noRequest
  | unsupported (kind : ObjectKind)

def InvalidReview.message : InvalidReview → String
  | .notJson => "not a JSON document"
  | .unreadable mismatch => mismatch.message
  | .noRequest => "failed to convert AdmissionReview into AdmissionRequest"
  | .unsupported kind =>
    "unsupported resource type: " ++ kind.group ++ "." ++ kind.version ++ "." ++ kind.kind

inductive Denial
  | noSpec
  | badSpec (mismatch : Json.Mismatch)
  | refused (error : AdmissionError)

def Denial.message : Denial → String
  | .noSpec => "admission request missing 'spec'"
  | .badSpec mismatch => mismatch.message
  | .refused error => error.message

inductive ReviewAnswer
  | invalid (reason : InvalidReview)
  | denied (request : ReviewRequest) (denial : Denial)
  | allowed (request : ReviewRequest)

namespace ReviewAnswer

def reviewJson (version kind uid : String) (allowed : Bool) (status : List (String × Json)) : Json :=
  .object [
    ("apiVersion", .string version),
    ("kind", .string kind),
    ("response", .object [
      ("uid", .string uid), ("allowed", .bool allowed), ("status", .object status)])]

def toJson : ReviewAnswer → Json
  | .invalid reason =>
    reviewJson "admission.k8s.io/v1beta1" "AdmissionReview" "" false [
      ("status", .string "Failure"),
      ("message", .string reason.message),
      ("reason", .string "InvalidRequest")]
  | .denied request denial =>
    reviewJson request.version request.kind request.uid false [("message", .string denial.message)]
  | .allowed request => reviewJson request.version request.kind request.uid true []

end ReviewAnswer

def ingressGroup : String := "networking.karmada.io"

def ObjectKind.isIngress (k : ObjectKind) : Bool :=
  sameIgnoringAsciiCase k.group ingressGroup && sameIgnoringAsciiCase k.kind Kind.ingress.text

def ReviewedObject.ingress (o : ReviewedObject) : Except Denial Ingress :=
  match o.spec with
  | none => .error .noSpec
  | some json =>
    match Json.Decoder.ingressSpec json with
    | .ok spec => .ok ⟨o.metadata, spec⟩
    | .error mismatch => .error (.badSpec mismatch)

structure Reviewed where
  answer : ReviewAnswer
  validated : Option (Ingress × Validation) := none

/-- Reviews a request. A request without an object deletes one, which is always allowed. -/
def ReviewRequest.reviewWith (r : ReviewRequest) (validate : Ingress → Validation) : Reviewed :=
  if !r.objectKind.isIngress then { answer := .invalid (.unsupported r.objectKind) }
  else
    match r.object.map ReviewedObject.ingress with
    | none => { answer := .allowed r }
    | some (.error denial) => { answer := .denied r denial }
    | some (.ok ingress) =>
      let validation := validate ingress
      { answer := match validation.verdict with
          | .ok _ => .allowed r
          | .error e => .denied r (.refused e)
        validated := some (ingress, validation) }

def readReview (body : String) : Except InvalidReview ReviewRequest :=
  match (Json.written? body).bind (Json.View.review Json.depthLimit) with
  | none => .error .notJson
  | some json =>
    match Json.Decoder.review json with
    | .error mismatch => .error (.unreadable mismatch)
    | .ok none => .error .noRequest
    | .ok (some request) => .ok request

structure HttpRequest where
  method : String
  /-- The path, with the query after it, or a whole URI. -/
  target : String
  body : String

/-- The webhook answers posts to the root only. -/
def HttpRequest.isReview (r : HttpRequest) : Bool :=
  r.method = "POST" && Uri.path r.target = ['/']

/-- Answers a request; there is no answer to what is not a review. -/
def HttpRequest.review? (r : HttpRequest) (validate : Ingress → Validation) : Option Reviewed :=
  if !r.isReview then none
  else
    match readReview r.body with
    | .error reason => some { answer := .invalid reason }
    | .ok request => some (request.reviewWith validate)

end IngressPlane
