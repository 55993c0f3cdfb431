import IngressPlane.Admission.Validator
import IngressPlane.Metrics.Tally

/-!
Metrics of admission: how many ingresses passed and failed, and the sizes of the last one admitted.
-/
namespace IngressPlane

structure Candidate where
  scope : String
  name : String
  deriving DecidableEq

def Ingress.candidate (i : Ingress) : Candidate := ⟨i.metadata.scopeText, i.metadata.anyName⟩

structure AdmissionMetrics where
  passed : Tally Candidate := {}
  failed : Tally Candidate := {}
  sizes : AdmissionSizes := ⟨0, 0, 0⟩

namespace AdmissionMetrics

/-- Counts a verdict. Ingresses that are admitted unseen do not count. -/
def record (m : AdmissionMetrics) (candidate : Candidate)
    (verdict : Except AdmissionError (Option AdmissionSizes)) : AdmissionMetrics :=
  match verdict with
  | .ok none => m
  | .ok (some sizes) => { m with passed := m.passed.increment candidate, sizes }
  | .error _ => { m with failed := m.failed.increment candidate }

def candidateLabels (c : Candidate) : List (String × String) :=
  [("namespace", c.scope), ("ingress", c.name)]

def gauge (name help : String) (n : Nat) : MetricFamily :=
  { name, help, kind := .gauge, samples := [{ value := n.repr ++ ".0" }] }

def families (m : AdmissionMetrics) : List MetricFamily := [
  { name := "admission_checks"
    help := "Count of resources that passed admission checks"
    kind := .counter
    samples := m.passed.samples candidateLabels },
  { name := "admission_check_errors"
    help := "Count of resources that failed admission checks"
    kind := .counter
    samples := m.failed.samples candidateLabels },
  gauge "admission_tested_ingresses" "The number of resources tested by the last admission check"
    m.sizes.tested,
  gauge "admission_render_ingresses"
    "The number of resources synthesized by the last admission check" m.sizes.rendered,
  gauge "admission_config_size_bytes" "The size of the last admitted rendered configuration"
    m.sizes.bytes]

end AdmissionMetrics
end IngressPlane
