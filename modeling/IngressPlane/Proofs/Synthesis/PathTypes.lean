import Mathlib.Data.Finset.Basic
import IngressPlane.Proofs.Synthesis.Alike

/-! Path types are routed by what they stand for, so making `Prefix` of all others first changes nothing
(`synthesize_normalized`), whichever of the ingresses it is done to (`synthesize_normalizedAt`). -/
namespace IngressPlane

theorem PathType.effective_normalized (s : String) : effective (normalized s) = effective s := by
  have hunder : effective PathType.under.text = .under := by decide
  unfold normalized
  split
  · rfl
  · rfl
  next hexact _ =>
    rw [hunder]
    unfold effective
    split
    next h => exact (hexact h).elim
    next => rfl

theorem PathType.normalized_cases (s : String) :
    normalized s = PathType.exact.text ∨ normalized s = PathType.under.text := by
  unfold normalized read
  split_ifs with hexact hunder
  · exact .inl hexact
  · exact .inr hunder
  · exact .inr rfl
  · exact .inr rfl

theorem PathType.normalized_normalized (s : String) : normalized (normalized s) = normalized s := by
  rcases normalized_cases s with h | h <;> rw [h] <;> decide

theorem HostRule.paths_setDefaultType (rule : HostRule) :
    rule.setDefaultType.paths = rule.paths.map PathRule.setDefaultType := by
  unfold paths setDefaultType
  cases rule.http <;> rfl

theorem HostRule.setDefaultType_idem (rule : HostRule) :
    rule.setDefaultType.setDefaultType = rule.setDefaultType := by
  have hpath (p : PathRule) : p.setDefaultType.setDefaultType = p.setDefaultType := by
    simp only [PathRule.setDefaultType, PathType.normalized_normalized]
  unfold setDefaultType
  cases rule.http with
  | none => rfl
  | some http => simp [hpath]

namespace Ingress

theorem ruleList_setDefaultPathType (i : Ingress) :
    i.setDefaultPathType.spec.ruleList = i.spec.ruleList.map HostRule.setDefaultType := by
  unfold setDefaultPathType IngressSpec.setDefaultPathType IngressSpec.ruleList
  cases i.spec.rules <;> rfl

theorem setDefaultPathType_idem (i : Ingress) :
    i.setDefaultPathType.setDefaultPathType = i.setDefaultPathType := by
  unfold setDefaultPathType IngressSpec.setDefaultPathType
  cases i.spec.rules with
  | none => rfl
  | some rules => simp [HostRule.setDefaultType_idem]

theorem pathType_setDefaultPathType {i : Ingress} {rule : HostRule} {p : PathRule}
    (hrule : rule ∈ i.setDefaultPathType.spec.ruleList) (hp : p ∈ rule.paths) :
    p.pathType = PathType.exact.text ∨ p.pathType = PathType.under.text := by
  rw [ruleList_setDefaultPathType] at hrule
  obtain ⟨old, _, rfl⟩ := List.mem_map.1 hrule
  rw [HostRule.paths_setDefaultType] at hp
  obtain ⟨q, _, rfl⟩ := List.mem_map.1 hp
  exact PathType.normalized_cases q.pathType

end Ingress

namespace RoutedIngress

def normalized (r : RoutedIngress) : RoutedIngress :=
  { r with ingress := r.ingress.setDefaultPathType }

theorem normalized_normalized (r : RoutedIngress) : r.normalized.normalized = r.normalized :=
  congrArg (RoutedIngress.mk · r.policy) r.ingress.setDefaultPathType_idem

theorem rules_normalized (r : RoutedIngress) :
    r.normalized.rules = r.rules.map HostRule.setDefaultType := r.ingress.ruleList_setDefaultPathType

theorem pathClaims_normalized (r : RoutedIngress) : r.normalized.pathClaims = r.pathClaims := by
  have hpath (host : String) (p : PathRule) :
      PathRule.claim? host p.setDefaultType = PathRule.claim? host p := by
    unfold PathRule.claim? PathRule.setDefaultType
    simp only [PathType.effective_normalized]
    rfl
  have hrule (rule : HostRule) : rule.setDefaultType.claims = rule.claims := by
    have hhost : rule.setDefaultType.hostname = rule.hostname := rfl
    unfold HostRule.claims
    rw [rule.paths_setDefaultType, List.filterMap_map, hhost]
    exact congrArg (List.filterMap · rule.paths) (funext (hpath rule.hostname))
  unfold pathClaims
  rw [rules_normalized, List.flatMap_map]
  exact congrArg (List.flatMap · r.rules) (funext hrule)

theorem alike_normalized (r : RoutedIngress) : r.normalized.Alike r where
  policy := rfl
  key := rfl
  scope := rfl
  anyName := rfl
  hostnames := by
    rw [hostnames, rules_normalized, List.map_map]
    rfl
  pathClaims := r.pathClaims_normalized
  defaultService := rfl
  tlsList := rfl

end RoutedIngress

/-- Synthesis does not see how a path type is written. -/
theorem Store.synthesize_normalized (store : Store) (now : Instant) (defaultService : Option String)
    {resources : List RoutedIngress} :
    store.synthesize now defaultService (resources.map RoutedIngress.normalized) =
      store.synthesize now defaultService resources :=
  synthesize_alike store now
    (List.forall₂_map_left_iff.2 (List.forall₂_same.2 fun r _ => r.alike_normalized)) defaultService

def normalizedAt (chosen : Finset ℕ) (resources : List RoutedIngress) : List RoutedIngress :=
  resources.mapIdx fun n r => if n ∈ chosen then r.normalized else r

theorem alike_normalizedAt (chosen : Finset ℕ) (resources : List RoutedIngress) :
    List.Forall₂ RoutedIngress.Alike (normalizedAt chosen resources) resources := by
  refine List.forall₂_iff_get.2 ⟨List.length_mapIdx, fun n _ _ => ?_⟩
  simp only [normalizedAt, List.get_eq_getElem, List.getElem_mapIdx]
  split_ifs
  · exact RoutedIngress.alike_normalized _
  · exact RoutedIngress.Alike.refl _

/-- Whichever ingresses get the path types that admission gives them, the hosts, the configuration and the
diagnostics stay the same. These path types are `Exact` or `Prefix`, and admission does not change them again. -/
theorem Store.synthesize_normalizedAt (store : Store) (now : Instant) (defaultService : Option String)
    (resources : List RoutedIngress) (chosen : Finset ℕ) :
    store.synthesize now defaultService (normalizedAt chosen resources) =
        store.synthesize now defaultService resources ∧
      ∀ i : Ingress, i.setDefaultPathType.setDefaultPathType = i.setDefaultPathType ∧
        ∀ rule ∈ i.setDefaultPathType.spec.ruleList, ∀ p ∈ rule.paths,
          p.pathType = "Exact" ∨ p.pathType = "Prefix" :=
  ⟨synthesize_alike store now (alike_normalizedAt chosen resources) defaultService,
    fun i => ⟨i.setDefaultPathType_idem, fun _ hrule _ hp => Ingress.pathType_setDefaultPathType hrule hp⟩⟩

end IngressPlane
