import IngressPlane.Text.Search

/-!
Metric families and the text in which they are exposed. Label values are written as they are.
-/
namespace IngressPlane

inductive MetricKind
  | counter
  | gauge
  deriving DecidableEq

structure MetricSample where
  labels : List (String × String) := []
  value : String

structure MetricFamily where
  name : String
  help : String
  kind : MetricKind
  samples : List MetricSample

namespace MetricKind

def text : MetricKind → String
  | .counter => "counter"
  | .gauge => "gauge"

def sampleEnding : MetricKind → String
  | .counter => "_total"
  | .gauge => ""

end MetricKind

def labelsText (labels : List (String × String)) : String :=
  if labels.isEmpty then ""
  else "\x7b" ++ Text.join "," (labels.map fun (name, value) => name ++ "=\"" ++ value ++ "\"") ++ "\x7d"

namespace MetricFamily

def sampleLine (f : MetricFamily) (s : MetricSample) : String :=
  f.name ++ f.kind.sampleEnding ++ labelsText s.labels ++ " " ++ s.value

def lines (f : MetricFamily) : List String :=
  ("# HELP " ++ f.name ++ " " ++ f.help ++ ".") :: ("# TYPE " ++ f.name ++ " " ++ f.kind.text)
    :: f.samples.map f.sampleLine

end MetricFamily

def exposition (families : List MetricFamily) : String :=
  String.join ((families.flatMap (·.lines) ++ ["# EOF"]).map (· ++ "\n"))

end IngressPlane
