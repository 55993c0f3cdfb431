import IngressPlane.Metrics.Tally
import IngressPlane.Store.Watch

/-!
Metrics of the store: how many objects it holds, by namespace and kind, and how often it has been
updated.
-/
namespace IngressPlane

structure Holding where
  scope : String
  kind : Kind
  deriving DecidableEq

structure WatchMetrics where
  held : Tally Holding := {}
  applied : Tally Holding := {}
  deleted : Tally Holding := {}
  resets : Tally Kind := {}

namespace WatchMetrics

def measure (m : WatchMetrics) (store : Store) (kind : Kind) (scope : String) : WatchMetrics :=
  { m with held := m.held.set ⟨scope, kind⟩ (store.count kind scope) }

def countApply (m : WatchMetrics) (kind : Kind) (scope : String) : WatchMetrics :=
  { m with applied := m.applied.increment ⟨scope, kind⟩ }

def countDelete (m : WatchMetrics) (kind : Kind) (scope : String) : WatchMetrics :=
  { m with deleted := m.deleted.increment ⟨scope, kind⟩ }

def countReset (m : WatchMetrics) (kind : Kind) : WatchMetrics :=
  { m with resets := m.resets.increment kind }

def holdingLabels (h : Holding) : List (String × String) :=
  [("namespace", h.scope), ("kind", h.kind.text)]

def families (m : WatchMetrics) : List MetricFamily := [
  { name := "store_resources"
    help := "The number of resources held in the store"
    kind := .gauge
    samples := m.held.samples holdingLabels },
  { name := "store_applies"
    help := "Count of resource updates applied to the store"
    kind := .counter
    samples := m.applied.samples holdingLabels },
  { name := "store_deletes"
    help := "Count of resource deletions applied to the store"
    kind := .counter
    samples := m.deleted.samples holdingLabels },
  { name := "store_resets"
    help := "Count of watch resets applied to the store"
    kind := .counter
    samples := m.resets.samples fun kind => [("kind", kind.text)] }]

end WatchMetrics
end IngressPlane
