import IngressPlane.Admission.Review
import IngressPlane.Metrics.AdmissionMetrics
import IngressPlane.Metrics.WatchMetrics

/-!
The controller: the store with the metrics of what is done to it and of what is asked of it.
-/
namespace IngressPlane

structure Controller where
  store : Store
  watching : WatchMetrics := {}
  admission : AdmissionMetrics := {}

namespace Controller

inductive Event
  | apply (object : Watched)
  | delete (kind : Kind) (scope name : String)
  | reset (kind : Kind) (objects : List Watched) (removed : List (String × List String))

variable (c : Controller)

/-- Stores an object and counts it. An object without a name is counted, but not stored: then the
second part is false. -/
def apply (object : Watched) : Controller × Bool :=
  let scope := object.metadata.scopeText
  let counted := c.watching.countApply object.kind scope
  match c.store.insert? object with
  | some store => ({ c with store, watching := counted.measure store object.kind scope }, true)
  | none => ({ c with watching := counted }, false)

def delete (kind : Kind) (scope name : String) : Controller :=
  let store := c.store.delete kind scope name
  { c with store, watching := (c.watching.countDelete kind scope).measure store kind scope }

/-- The namespaces that a reset touches, in ascending order. -/
def touchedScopes (objects : List Watched) (removed : List (String × List String)) : List String :=
  ascending (objects.filterMap (·.metadata.scope) ++ removed.map (·.1))

/-- Resets a kind of objects. It stops at an object without a name: then the second part is false. -/
def reset (kind : Kind) (objects : List Watched) (removed : List (String × List String)) :
    Controller × Bool :=
  let counted := c.watching.countReset kind
  match c.store.reset kind objects removed with
  | (store, true) =>
    let watching := (touchedScopes objects removed).foldl (fun m scope => m.measure store kind scope)
      counted
    ({ c with store, watching }, true)
  | (store, false) => ({ c with store, watching := counted }, false)

def handle (event : Event) : Controller :=
  match event with
  | .apply object => (c.apply object).1
  | .delete kind scope name => c.delete kind scope name
  | .reset kind objects removed => (c.reset kind objects removed).1

def run (events : List Event) : Controller := events.foldl handle c

def check (v : Validator) (now : Instant) (files : FileTree) (candidate : Ingress) :
    Controller × Validation :=
  let validation := v.validate c.store now files candidate
  ({ c with admission := c.admission.record candidate.candidate validation.verdict }, validation)

def review (v : Validator) (now : Instant) (files : FileTree) (request : HttpRequest) :
    Controller × Option Reviewed :=
  match request.review? (v.validate c.store now files) with
  | none => (c, none)
  | some reviewed =>
    match reviewed.validated with
    | none => (c, some reviewed)
    | some (ingress, validation) =>
      ({ c with admission := c.admission.record ingress.candidate validation.verdict }, some reviewed)

def metrics : String := exposition (c.watching.families ++ c.admission.families)

end Controller
end IngressPlane
