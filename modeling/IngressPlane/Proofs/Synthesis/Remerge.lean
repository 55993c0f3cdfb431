import IngressPlane.Proofs.Synthesis.OwnLocations

/-! Merging again. What a merge takes away accepts no alternatives, so each target finds the backends that it is
aimed at as before, with its alternative listed wherever it is accepted; and what has been kept once has the same
use again. So a second merge changes no backend (`mergeCanaries_idempotent`). -/
namespace IngressPlane

variable {hosts : Table VirtualHost} {m : Merging} {alternative name k : String} {t : CanaryTarget}
  {resources : List RoutedIngress} {d : Draft}

namespace Merging

theorem target_of_placed (target : Bool × CanaryTarget)
    (h : m.backends.contains target.2.alternative → target.2.Placed hosts m.backends) :
    (m.target hosts target).backends = m.backends := by
  by_cases hthere : m.backends.contains target.2.alternative
  · exact (target_backends_eq_iff hthere).2 (h hthere)
  · unfold Merging.target
    simp only [hthere, Bool.not_false, if_true]

theorem targets_of_placed {targets : List (Bool × CanaryTarget)}
    (h : ∀ target ∈ targets, m.backends.contains target.2.alternative → target.2.Placed hosts m.backends) :
    (targets.foldl (Merging.target hosts) m).backends = m.backends := by
  refine List.foldlRecOn (motive := fun m' : Merging => m'.backends = m.backends) _ _ rfl
    fun m' hm' target htarget => ?_
  rw [target_of_placed target (by rw [hm']; exact h target htarget), hm']

end Merging

namespace Draft

theorem accepts_mergeCanaries :
    Accepts (mergeCanaries resources d.hosts d.backends).backends alternative k ↔
      Accepts d.backends alternative k := by
  have hhull := (d.follows_targeted resources).hull
  constructor
  · rintro ⟨b, hb, hname, hserver⟩
    rw [get?_mergeCanaries] at hb
    exact (accepts_congr hhull).1 ⟨b, (Option.filter_eq_some_iff.1 hb).1, hname, hserver⟩
  · intro haccepts
    obtain ⟨b, hb, hname, hserver⟩ := (accepts_congr hhull).2 haccepts
    exact ⟨b, by rw [get?_mergeCanaries_of_accepts haccepts, hb], hname, hserver⟩

theorem hasUse_mergeCanaries :
    t.HasUse d.hosts (mergeCanaries resources d.hosts d.backends).backends ↔ t.HasUse d.hosts d.backends := by
  simp only [CanaryTarget.HasUse, accepts_mergeCanaries]

theorem contains_of_mergeCanaries
    (h : (mergeCanaries resources d.hosts d.backends).backends.contains name) : d.backends.contains name := by
  obtain ⟨b, hb⟩ := Table.contains_iff.1 h
  rw [get?_mergeCanaries] at hb
  rw [← contains_congr (d.follows_targeted resources).hull]
  exact Table.contains_iff.2 ⟨b, (Option.filter_eq_some_iff.1 hb).1⟩

/-- A merge leaves every alternative placed that it leaves. -/
theorem placed_mergeCanaries {target : Bool × CanaryTarget} (htarget : target ∈ allTargets resources)
    (hthere : (mergeCanaries resources d.hosts d.backends).backends.contains target.2.alternative) :
    target.2.Placed d.hosts (mergeCanaries resources d.hosts d.backends).backends := by
  intro primary haims haccepts
  rw [accepts_mergeCanaries] at haccepts
  have hlists : Lists (d.targeted resources).backends primary target.2.alternative :=
    ((Merging.extends_targets d.hosts (allTargets resources) { backends := d.backends }).lists _ _).2
      (.inr ⟨contains_of_mergeCanaries hthere, haccepts, target, htarget, rfl, haims⟩)
  rwa [Lists, get?_mergeCanaries_of_accepts haccepts]

theorem kept_of_mergeCanaries {b : Backend}
    (hb : (mergeCanaries resources d.hosts d.backends).backends.get? k = some b) (hcanary : b.noServer = true)
    {target : Bool × CanaryTarget} (htarget : target ∈ allTargets resources)
    (halternative : target.2.alternative = k) : k ∈ (d.targeted resources).kept := by
  have hthere : d.backends.contains k := contains_of_mergeCanaries (Table.contains_iff.2 ⟨b, hb⟩)
  have hseen : k ∈ (d.targeted resources).seen :=
    ((d.follows_targeted resources).seen k).2 (.inr ⟨hthere, target, htarget, halternative⟩)
  rw [get?_mergeCanaries] at hb
  have hleft := (Option.filter_eq_some_iff.1 hb).2
  simpa [hseen, hcanary] using hleft

end Draft

/-- A merge lists every alternative that it leaves wherever its targets are aimed at and it is accepted. A second
one, with the same ingresses and hosts, changes no backend: it attaches nothing, copies no affinity and takes
nothing away. -/
theorem mergeCanaries_idempotent (resources : List RoutedIngress) (hosts : Table VirtualHost)
    (backends : Table Backend) :
    let merged := (mergeCanaries resources hosts backends).backends
    (∀ target ∈ allTargets resources, merged.contains target.2.alternative → target.2.Placed hosts merged) ∧
      (mergeCanaries resources hosts merged).backends = merged := by
  intro merged
  let first : Draft := { backends, hosts }
  let second : Draft := { backends := merged, hosts }
  have hleft : ∀ target ∈ allTargets resources, merged.contains target.2.alternative →
      target.2.Placed hosts merged :=
    fun target htarget hthere => first.placed_mergeCanaries htarget hthere
  have hplaced : (second.targeted resources).backends = merged := Merging.targets_of_placed hleft
  have hfirst := first.follows_targeted resources
  have hsecond := second.follows_targeted resources
  refine ⟨hleft, Table.ext_get? fun k => ?_⟩
  have hswept := second.get?_mergeCanaries resources k
  rw [hplaced] at hswept
  rw [hswept]
  cases hb : merged.get? k with
  | none => rfl
  | some b =>
    rw [Option.filter_some, if_pos]
    rw [Bool.not_eq_true', Bool.and_eq_false_imp, decide_eq_true_iff]
    rintro ⟨hseen, hlost⟩
    by_contra hcanary
    -- a canary's backend with targets has been kept by the first merge, and its use is still there
    obtain ⟨hthere, target, htarget, halternative⟩ :=
      ((hsecond.seen k).1 hseen).resolve_left List.not_mem_nil
    have hkept : k ∈ (first.targeted resources).kept :=
      first.kept_of_mergeCanaries hb (by simpa using hcanary) htarget halternative
    obtain ⟨_, user, huser, hname, huse⟩ := ((hfirst.kept k).1 hkept).resolve_left List.not_mem_nil
    have hagain : user.2.HasUse second.hosts second.backends := first.hasUse_mergeCanaries.2 huse
    exact hlost ((hsecond.kept k).2 (.inr ⟨hthere, user, huser, hname, hagain⟩))

end IngressPlane
