import IngressPlane.Metrics.Exposition
import IngressPlane.Text.Decimal

/-!
Tallies: a number for each of the subjects that have been met.
-/
namespace IngressPlane

structure Tally (α : Type) where
  entries : List (α × Nat) := []

namespace Tally

variable {α : Type} [DecidableEq α]

def get? (t : Tally α) (subject : α) : Option Nat :=
  (t.entries.find? (·.1 = subject)).map (·.2)

def setEntry (subject : α) (n : Nat) : List (α × Nat) → List (α × Nat)
  | [] => [(subject, n)]
  | entry :: rest =>
    if entry.1 = subject then (subject, n) :: rest else entry :: setEntry subject n rest

def set (t : Tally α) (subject : α) (n : Nat) : Tally α := ⟨setEntry subject n t.entries⟩

def increment (t : Tally α) (subject : α) : Tally α := t.set subject ((t.get? subject).getD 0 + 1)

def samples (t : Tally α) (labels : α → List (String × String)) : List MetricSample :=
  t.entries.map fun (subject, n) => { labels := labels subject, value := n.repr }

end Tally
end IngressPlane
