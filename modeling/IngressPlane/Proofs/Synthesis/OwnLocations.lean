import IngressPlane.Proofs.Synthesis.Alternatives

/-! Targets whose alternative serves a location of their host itself. Such a target is noted and its alternative
is kept, but the target is not given up as a whole: it still puts the alternative at the locations in front of the
first one that the alternative serves, so what it does depends on the order of the locations
(`target_ownLocation`). -/
namespace IngressPlane

variable {hosts : Table VirtualHost} {m : Merging} {legacy : Bool} {alternative primary : String}
  {t : CanaryTarget} {v : VirtualHost} {resources : List RoutedIngress} {d : Draft}

namespace CanaryTarget

/-- Whether the alternative is listed wherever the target is aimed at and accepted. -/
def Placed (t : CanaryTarget) (hosts : Table VirtualHost) (backends : Table Backend) : Prop :=
  ∀ primary, t.AimsAt hosts primary → Accepts backends t.alternative primary →
    Lists backends primary t.alternative

theorem split_of_ownLocation? {ls : List Location} {own : Location} (h : t.ownLocation? ls = some own) :
    own.backend = t.alternative ∧ ∃ behind, ls = t.reached ls ++ own :: behind := by
  unfold ownLocation? at h
  obtain ⟨hown, front, behind, rfl, hfront⟩ := List.find?_eq_some_iff_append.1 h
  have hreached : t.reached (front ++ own :: behind) = front := by
    have hpass : ∀ l ∈ front, decide (l.backend ≠ t.alternative) = true := by simpa using hfront
    unfold reached
    rw [List.takeWhile_append_of_pos hpass, List.takeWhile_cons_of_neg (by simpa using hown), List.append_nil]
  exact ⟨of_decide_eq_true hown, behind, by rw [hreached]⟩

end CanaryTarget

namespace Merging

theorem attach_of_lists
    (h : Accepts m.backends alternative primary → Lists m.backends primary alternative) :
    (m.attach legacy alternative primary).backends = m.backends := by
  rcases m.attach_cases legacy alternative primary with
    ⟨_, heq⟩ | ⟨backend, merged, hbackend, haccepts, heq, ⟨_, rfl⟩ | ⟨hnew, _⟩⟩
  · rw [heq]
  · rw [heq]
  · obtain ⟨b, hb, hlisted⟩ := h haccepts
    obtain rfl : backend = b := Option.some.inj (hbackend.symm.trans hb)
    exact (hnew hlisted).elim

theorem attachAll_of_lists {primaries : List String}
    (h : ∀ primary ∈ primaries, Accepts m.backends alternative primary →
      Lists m.backends primary alternative) :
    (primaries.foldl (Merging.attach legacy alternative) m).backends = m.backends := by
  refine List.foldlRecOn (motive := fun m' : Merging => m'.backends = m.backends) _ _ rfl
    fun m' hm' primary hprimary => ?_
  rw [attach_of_lists (by rw [hm']; exact h primary hprimary), hm']

theorem attachAll_notes (legacy : Bool) (alternative : String) (primaries : List String) (m : Merging) :
    (primaries.foldl (Merging.attach legacy alternative) m).notes = m.notes := by
  refine List.foldlRecOn (motive := fun m' : Merging => m'.notes = m.notes) _ _ rfl fun m' hm' primary _ => ?_
  rcases m'.attach_cases legacy alternative primary with ⟨_, heq⟩ | ⟨_, _, _, _, heq, _⟩ <;> rwa [heq]

/-- A target changes no backend exactly if its alternative is placed already. -/
theorem target_backends_eq_iff (hthere : m.backends.contains t.alternative) :
    (m.target hosts (legacy, t)).backends = m.backends ↔ t.Placed hosts m.backends := by
  constructor
  · intro hsame primary haims haccepts
    have hlists := (extends_target hosts m (legacy, t)).lists primary t.alternative
    rw [hsame] at hlists
    exact hlists.2 (.inr ⟨hthere, haccepts, rfl, haims⟩)
  · intro hplaced
    unfold Merging.target
    simp only [hthere, Bool.not_true, Bool.false_eq_true, if_false]
    cases hhost : hosts.get? t.host with
    | none => rfl
    | some v =>
      have hstart := noteOwn_backends t v.locations { m with seen := t.alternative :: m.seen }
      refine (attachAll_of_lists fun primary hprimary => ?_).trans hstart
      rw [hstart]
      exact hplaced primary ((CanaryTarget.aimsAt_iff hhost).2 hprimary)

theorem target_notes (hthere : m.backends.contains t.alternative) (hhost : hosts.get? t.host = some v) :
    (m.target hosts (legacy, t)).notes = m.notes ++ ((t.ownLocation? v.locations).map fun own =>
      Diagnostic.canaryIsPrimary t.alternative t.host own.path).toList := by
  unfold Merging.target
  simp only [hthere, Bool.not_true, Bool.false_eq_true, if_false, hhost]
  rw [attachAll_notes, noteOwn]
  cases t.ownLocation? v.locations <;> simp

end Merging

theorem Draft.contains_mergeCanaries {target : Bool × CanaryTarget} (htarget : target ∈ allTargets resources)
    (hthere : d.backends.contains target.2.alternative) (huse : target.2.HasUse d.hosts d.backends) :
    (mergeCanaries resources d.hosts d.backends).backends.contains target.2.alternative := by
  have hfollows := d.follows_targeted resources
  have hkept : target.2.alternative ∈ (d.targeted resources).kept :=
    (hfollows.kept _).2 (.inr ⟨hthere, target, htarget, rfl, huse⟩)
  have htargeted : (d.targeted resources).backends.contains target.2.alternative :=
    (contains_congr hfollows.hull).trans hthere
  obtain ⟨b, hb⟩ := Table.contains_iff.1 htargeted
  rw [Table.contains, d.get?_mergeCanaries, hb, Option.filter_some]
  simp [hkept]

/-- What a target does whose alternative serves a location of its host: the first such location is noted, and the
alternative is kept, here and in every merge with this target. It is listed all the same at those backends that
accept it and that the target is aimed at in front of that location. So the target leaves the backends as they are
exactly if it is listed at all of these before. -/
theorem target_ownLocation (hosts : Table VirtualHost) (m : Merging) (legacy : Bool) (t : CanaryTarget)
    (hthere : m.backends.contains t.alternative) (hhost : hosts.get? t.host = some v)
    (hown : ∃ l ∈ v.locations, l.backend = t.alternative) :
    let after := m.target hosts (legacy, t)
    let front := t.reached v.locations
    ∃ own behind, v.locations = front ++ own :: behind ∧
      (∀ l ∈ front, l.backend ≠ t.alternative) ∧ own.backend = t.alternative ∧
      after.notes = m.notes ++ [.canaryIsPrimary t.alternative t.host own.path] ∧
      t.alternative ∈ after.kept ∧
      (∀ resources, (legacy, t) ∈ allTargets resources →
        (mergeCanaries resources hosts m.backends).backends.contains t.alternative) ∧
      (∀ primary name, Lists after.backends primary name ↔ Lists m.backends primary name ∨
        name = t.alternative ∧ Accepts m.backends t.alternative primary ∧
          ∃ l ∈ front, t.isAt l ∧ l.backend = primary) ∧
      (after.backends = m.backends ↔ ∀ l ∈ front, t.isAt l →
        Accepts m.backends t.alternative l.backend → Lists m.backends l.backend t.alternative) := by
  intro after front
  have hfound : (t.ownLocation? v.locations).isSome := by simpa [CanaryTarget.ownLocation?] using hown
  obtain ⟨own, hfirst⟩ := Option.isSome_iff_exists.1 hfound
  obtain ⟨hserved, behind, hsplit⟩ := CanaryTarget.split_of_ownLocation? hfirst
  have huse : t.HasUse hosts m.backends := ⟨v, hhost, .inl hown⟩
  have haims (primary : String) : t.AimsAt hosts primary ↔ ∃ l ∈ front, t.isAt l ∧ l.backend = primary :=
    (CanaryTarget.aimsAt_iff hhost).trans CanaryTarget.mem_primaries
  refine ⟨own, behind, hsplit, fun l hl => ?_, hserved, ?_, ?_, fun resources htarget => ?_,
    fun primary name => ?_, ?_⟩
  · simpa using List.all_eq_true.1 List.all_takeWhile l hl
  · rw [Merging.target_notes hthere hhost, hfirst]
    rfl
  · exact ((Merging.follows_target hosts m (legacy, t)).kept _).2 (.inr ⟨hthere, rfl, huse⟩)
  · have hleft := Draft.contains_mergeCanaries (d := { backends := m.backends, hosts }) htarget hthere huse
    exact hleft
  · rw [(Merging.extends_target hosts m (legacy, t)).lists, ← haims]
    refine or_congr_right ⟨?_, ?_⟩
    · rintro ⟨_, haccepts, rfl, haimed⟩
      exact ⟨rfl, haccepts, haimed⟩
    · rintro ⟨rfl, haccepts, haimed⟩
      exact ⟨hthere, haccepts, rfl, haimed⟩
  · rw [Merging.target_backends_eq_iff hthere, CanaryTarget.Placed]
    simp only [haims]
    constructor
    · exact fun h l hl hat => h l.backend ⟨l, hl, hat, rfl⟩
    · rintro h _ ⟨l, hl, hat, rfl⟩
      exact h l hl hat

/-- A canary for the root of a host, with the service that a later path of the host leads to: the backend of the
root gets it as an alternative. -/
theorem target_ownLocation_of_two :
    let v : VirtualHost :=
      { hostname := "a.com"
        locations := [Location.at "/" .under "ns-web-80", Location.at "/x" .under "ns-api-80"] }
    let hosts := Table.empty.insert "a.com" v
    let m : Merging :=
      { backends := (Table.empty.insert "ns-web-80" { name := "ns-web-80" }).insert "ns-api-80"
          { name := "ns-api-80" } }
    let t : CanaryTarget := ⟨"a.com", some ("/", .under), "ns-api-80"⟩
    m.backends.contains t.alternative ∧ hosts.get? t.host = some v ∧
      (∃ l ∈ v.locations, l.backend = t.alternative) ∧
      (m.target hosts (false, t)).notes = [.canaryIsPrimary "ns-api-80" "a.com" "/x"] ∧
      Lists (m.target hosts (false, t)).backends "ns-web-80" "ns-api-80" := by
  intro v hosts m t
  have hthere : m.backends.contains t.alternative := by decide
  have hhost : hosts.get? t.host = some v := Table.get?_insert_self _ _ _
  have hown : ∃ l ∈ v.locations, l.backend = t.alternative := by decide
  have hfront : t.reached v.locations = [Location.at "/" .under "ns-web-80"] := by decide
  obtain ⟨own, behind, hsplit, _, _, hnotes, _, _, hlists, _⟩ :=
    target_ownLocation hosts m false t hthere hhost hown
  rw [hfront] at hsplit hlists
  obtain ⟨rfl, _⟩ : Location.at "/x" .under "ns-api-80" = own ∧ _ := by simpa [v] using hsplit
  have haccepts : Accepts m.backends "ns-api-80" "ns-web-80" := ⟨{ name := "ns-web-80" }, by decide, by decide, rfl⟩
  exact ⟨hthere, hhost, hown, hnotes,
    (hlists _ _).2 (.inr ⟨rfl, haccepts, _, List.mem_singleton_self _, rfl, rfl⟩)⟩

end IngressPlane
