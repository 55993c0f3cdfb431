import IngressPlane.Proofs.Store.Keyed
import IngressPlane.Proofs.Synthesis.Ownership
import IngressPlane.Proofs.Synthesis.References

/-! Which backends list which alternatives. A merge adds what its targets are aimed at, and nothing else
(`Merging.extends_targets`), so the lists after the canary stage can be read off the canaries and the wired
locations (`lists_attachCanaries`). Placeholders count there as much as the locations of rules do. -/
namespace IngressPlane

variable {hosts : Table VirtualHost} {backends : Table Backend} {m : Merging} {legacy : Bool}
  {alternative primary name k : String} {resources : List RoutedIngress} {d : Draft}
  {store : Store} {now : Instant} {defaultService : Option String}

def Lists (backends : Table Backend) (primary name : String) : Prop :=
  ∃ b, backends.get? primary = some b ∧ name ∈ b.alternatives

theorem lists_joined {backend : Backend} (hbackend : backends.get? primary = some backend) :
    Lists (joined legacy backends alternative primary backend) k name ↔
      Lists backends k name ∨ k = primary ∧ name = alternative := by
  obtain ⟨affinity, hget⟩ := get?_joined legacy alternative hbackend k
  unfold Lists
  rw [hget]
  by_cases hk : k = primary
  · subst hk
    simp [hbackend]
  · cases backends.get? k <;> simp [hk]

def ListedOnce (backends : Table Backend) : Prop :=
  ∀ k b, backends.get? k = some b → b.alternatives.Nodup

theorem ListedOnce.joined (h : ListedOnce backends) {backend : Backend}
    (hbackend : backends.get? primary = some backend) (hnew : alternative ∉ backend.alternatives) :
    ListedOnce (joined legacy backends alternative primary backend) := by
  intro k b' hb'
  obtain ⟨affinity, hget⟩ := get?_joined legacy alternative hbackend k
  obtain ⟨b, hb, rfl⟩ := Option.map_eq_some_iff.1 (hget.symm.trans hb')
  dsimp only
  split
  next hk =>
    subst hk
    obtain rfl : backend = b := Option.some.inj (hbackend.symm.trans hb)
    rw [← List.concat_eq_append]
    exact (h k backend hb).concat hnew
  next => exact h k b hb

/-- Whether a target is aimed at a location on a backend, in front of those that its alternative serves. -/
def CanaryTarget.AimsAt (t : CanaryTarget) (hosts : Table VirtualHost) (primary : String) : Prop :=
  ∃ ls, locationsAt? hosts t.host = some ls ∧ ∃ l ∈ t.reached ls, t.isAt l ∧ l.backend = primary

theorem CanaryTarget.mem_primaries {t : CanaryTarget} {ls : List Location} :
    primary ∈ t.primaries ls ↔ ∃ l ∈ t.reached ls, t.isAt l ∧ l.backend = primary := by
  simp only [CanaryTarget.primaries, List.mem_map, List.mem_filter, and_assoc]

theorem CanaryTarget.aimsAt_iff {t : CanaryTarget} {v : VirtualHost} (hhost : hosts.get? t.host = some v) :
    t.AimsAt hosts primary ↔ primary ∈ t.primaries v.locations := by
  simp [CanaryTarget.AimsAt, CanaryTarget.mem_primaries, locationsAt?, hhost]

namespace Merging

/-- A merge after another that lists more alternatives, and none of them twice. -/
structure Extends (m after : Merging) (listed : String → String → Prop) : Prop where
  hull : after.backends.map Backend.hull = m.backends.map Backend.hull
  lists : ∀ k name, Lists after.backends k name ↔ Lists m.backends k name ∨ listed k name
  once : ListedOnce m.backends → ListedOnce after.backends

theorem extends_attach (legacy : Bool) (alternative : String) (m : Merging) (primary : String) :
    m.Extends (m.attach legacy alternative primary) fun k name =>
      name = alternative ∧ k = primary ∧ Accepts m.backends alternative primary := by
  refine ⟨m.attach_hull legacy alternative primary, ?_, ?_⟩
  · intro k name
    rcases m.attach_cases legacy alternative primary with
      ⟨hnot, h⟩ | ⟨backend, merged, hbackend, haccepts, h, ⟨hlisted, rfl⟩ | ⟨_, rfl⟩⟩
    · rw [h]
      simp [hnot]
    · rw [h]
      refine ⟨.inl, fun hor => hor.elim id ?_⟩
      rintro ⟨rfl, rfl, _⟩
      exact ⟨backend, hbackend, hlisted⟩
    · rw [h, lists_joined hbackend]
      simp [haccepts, and_comm]
  · intro honce
    rcases m.attach_cases legacy alternative primary with
      ⟨_, h⟩ | ⟨backend, merged, hbackend, _, h, ⟨_, rfl⟩ | ⟨hnew, rfl⟩⟩
    · rwa [h]
    · rwa [h]
    · rw [h]
      exact honce.joined hbackend hnew

theorem extends_attachAll (legacy : Bool) (alternative : String) (primaries : List String) (m : Merging) :
    m.Extends (primaries.foldl (Merging.attach legacy alternative) m) fun k name =>
      name = alternative ∧ k ∈ primaries ∧ Accepts m.backends alternative k := by
  induction primaries generalizing m with
  | nil => exact ⟨rfl, by simp, id⟩
  | cons primary primaries ih =>
    have hfirst := extends_attach legacy alternative m primary
    have hrest := ih (m.attach legacy alternative primary)
    refine ⟨hrest.hull.trans hfirst.hull, fun k name => ?_, fun honce => hrest.once (hfirst.once honce)⟩
    rw [List.foldl_cons, hrest.lists, hfirst.lists, accepts_congr hfirst.hull, or_assoc, ← and_or_left]
    simp only [List.mem_cons, or_and_right]
    refine or_congr_right (and_congr_right fun _ => or_congr_left (and_congr_right fun hk => ?_))
    rw [hk]

theorem noteOwn_backends (t : CanaryTarget) (ls : List Location) (m : Merging) :
    (m.noteOwn t ls).backends = m.backends := by
  unfold noteOwn
  split <;> rfl

theorem extends_target (hosts : Table VirtualHost) (m : Merging) (target : Bool × CanaryTarget) :
    m.Extends (m.target hosts target) fun k name =>
      m.backends.contains name ∧ Accepts m.backends name k ∧
        target.2.alternative = name ∧ target.2.AimsAt hosts k := by
  obtain ⟨legacy, t⟩ := target
  unfold Merging.target
  dsimp only
  by_cases hcontains : m.backends.contains t.alternative
  · simp only [hcontains, Bool.not_true, Bool.false_eq_true, if_false]
    cases hhost : hosts.get? t.host with
    | none =>
      have hnot (k : String) : ¬ t.AimsAt hosts k := by
        rintro ⟨ls, hls, _⟩
        simp [locationsAt?, hhost] at hls
      exact ⟨rfl, fun k name => by simp [hnot], id⟩
    | some v =>
      have hdone := extends_attachAll legacy t.alternative (t.primaries v.locations)
        (noteOwn t v.locations { m with seen := t.alternative :: m.seen })
      have hstart := noteOwn_backends t v.locations { m with seen := t.alternative :: m.seen }
      refine ⟨hdone.hull.trans (congrArg _ hstart), fun k name => ?_, fun honce => hdone.once ?_⟩
      · rw [hdone.lists, hstart]
        refine or_congr_right ⟨?_, ?_⟩
        · rintro ⟨rfl, hk, haccepts⟩
          exact ⟨hcontains, haccepts, rfl, (CanaryTarget.aimsAt_iff hhost).2 hk⟩
        · rintro ⟨_, haccepts, rfl, hk⟩
          exact ⟨rfl, (CanaryTarget.aimsAt_iff hhost).1 hk, haccepts⟩
      · rwa [hstart]
  · rw [if_pos (by simp [hcontains])]
    refine ⟨rfl, fun k name => (or_iff_left ?_).symm, id⟩
    rintro ⟨hname, _, rfl, _⟩
    exact hcontains hname

theorem extends_targets (hosts : Table VirtualHost) (targets : List (Bool × CanaryTarget)) (m : Merging) :
    m.Extends (targets.foldl (Merging.target hosts) m) fun k name =>
      m.backends.contains name ∧ Accepts m.backends name k ∧
        ∃ target ∈ targets, target.2.alternative = name ∧ target.2.AimsAt hosts k := by
  induction targets generalizing m with
  | nil => exact ⟨rfl, by simp, id⟩
  | cons target targets ih =>
    have hfirst := extends_target hosts m target
    have hrest := ih (m.target hosts target)
    refine ⟨hrest.hull.trans hfirst.hull, fun k name => ?_, fun honce => hrest.once (hfirst.once honce)⟩
    rw [List.foldl_cons, hrest.lists, hfirst.lists, accepts_congr hfirst.hull,
      contains_congr hfirst.hull, or_assoc, ← and_or_left, ← and_or_left]
    simp only [List.mem_cons, exists_eq_or_imp]

end Merging

namespace Draft

/-- What the canary stage lists, where nothing is listed before: the alternatives of all targets, at the
backends that these are aimed at. -/
theorem lists_attachCanaries (hnone : ∀ k b, d.backends.get? k = some b → b.alternatives = []) :
    Lists (d.attachCanaries resources).backends primary name ↔
      primaries resources ≠ [] ∧ d.backends.contains name ∧ Accepts d.backends name primary ∧
        ∃ target ∈ allTargets resources, target.2.alternative = name ∧ target.2.AimsAt d.hosts primary := by
  have hstart : ¬ Lists d.backends primary name := by
    rintro ⟨b, hb, hname⟩
    simp [hnone primary b hb] at hname
  by_cases hempty : primaries resources = []
  · simp only [hempty, ne_eq, not_true_eq_false, false_and, iff_false]
    rintro ⟨b, hb, hname⟩
    rw [get?_attachCanaries_of_none hempty] at hb
    exact hstart ⟨b, (Option.filter_eq_some_iff.1 hb).1, hname⟩
  · have hextends : ({ backends := d.backends } : Merging).Extends (d.targeted resources) _ :=
      Merging.extends_targets d.hosts (allTargets resources) { backends := d.backends }
    have hlists : Lists (d.targeted resources).backends primary name ↔
        d.backends.contains name ∧ Accepts d.backends name primary ∧ ∃ target ∈ allTargets resources,
          target.2.alternative = name ∧ target.2.AimsAt d.hosts primary :=
      (hextends.lists primary name).trans (or_iff_right hstart)
    rw [← hlists]
    simp only [hempty, ne_eq, not_false_eq_true, true_and]
    constructor
    · rintro ⟨b, hb, hname⟩
      rw [get?_attachCanaries_of_primaries hempty] at hb
      exact ⟨b, (Option.filter_eq_some_iff.1 hb).1, hname⟩
    · rintro ⟨b, hb, hname⟩
      obtain ⟨_, haccepts, _⟩ := hlists.1 ⟨b, hb, hname⟩
      exact ⟨b, by rw [attachCanaries_backends_of_primaries hempty, get?_mergeCanaries_of_accepts haccepts, hb],
        hname⟩

theorem listedOnce_attachCanaries (hnone : ∀ k b, d.backends.get? k = some b → b.alternatives = []) :
    ListedOnce (d.attachCanaries resources).backends := by
  have hstart : ListedOnce d.backends := fun k b hb => by simp [hnone k b hb]
  intro k b hb
  by_cases hempty : primaries resources = []
  · rw [get?_attachCanaries_of_none hempty] at hb
    exact hstart k b (Option.filter_eq_some_iff.1 hb).1
  · rw [get?_attachCanaries_of_primaries hempty] at hb
    exact (Merging.extends_targets d.hosts (allTargets resources) { backends := d.backends }).once hstart
      k b (Option.filter_eq_some_iff.1 hb).1

/-- The alternatives of a draft are in order: all are there, none is listed twice or at itself, and the
backends of canaries list none, but are listed somewhere or serve a location. -/
structure Settled (d : Draft) : Prop where
  present : ∀ b ∈ d.backends.values, ∀ name ∈ b.alternatives, name ∈ d.backends.keys
  others : ∀ b ∈ d.backends.values, ∀ name ∈ b.alternatives, name ≠ b.name
  once : ∀ b ∈ d.backends.values, b.alternatives.Nodup
  bare : ∀ b ∈ d.backends.values, b.noServer = true → b.alternatives = []
  used : ∀ b ∈ d.backends.values, b.noServer = true →
    (∃ primary ∈ d.backends.values, b.name ∈ primary.alternatives) ∨ ∃ l ∈ d.locations, l.backend = b.name

end Draft

namespace Store

theorem shadowed_named : (store.shadowed now defaultService resources).backends.Named Backend.name :=
  Draft.attachCanaries_named (store.wired_backends_named now defaultService resources)

theorem lists_iff {b : Backend} (hb : b ∈ (store.shadowed now defaultService resources).backends.values) :
    Lists (store.shadowed now defaultService resources).backends b.name name ↔ name ∈ b.alternatives := by
  have hget : (store.shadowed now defaultService resources).backends.get? b.name = some b :=
    shadowed_named.get?_of_mem hb
  simp [Lists, hget]

theorem accepts_iff {b : Backend} (hb : b ∈ (store.shadowed now defaultService resources).backends.values) :
    Accepts (store.wired now defaultService resources).backends name b.name ↔
      b.noServer = false ∧ b.name ≠ name := by
  have hget : (store.shadowed now defaultService resources).backends.get? b.name = some b :=
    shadowed_named.get?_of_mem hb
  obtain ⟨b', hb', hhull⟩ := Draft.attachCanaries_hull hget
  have hname : b'.name = b.name := by simpa using congrArg Backend.name hhull
  have hserver : b'.noServer = b.noServer := by simpa using congrArg Backend.noServer hhull
  simp [Accepts, hb', hname, hserver, and_comm]

theorem lists_shadowed :
    Lists (store.shadowed now defaultService resources).backends primary name ↔
      primaries resources ≠ [] ∧ (store.wired now defaultService resources).backends.contains name ∧
        Accepts (store.wired now defaultService resources).backends name primary ∧
        ∃ target ∈ allTargets resources, target.2.alternative = name ∧
          target.2.AimsAt (store.wired now defaultService resources).hosts primary :=
  Draft.lists_attachCanaries fun _ _ => wired_alternatives

theorem allLocations_fallback : AllLocations (fun l => l.isFallback = true → l.key = rootKey)
    (store.wired now defaultService resources).hosts := by
  refine Draft.allLocations_foldl_wire (fun host ls hls => ?_) fun claimed _ backend _ _ =>
    ⟨fun h => ?_, fun root _ _ _ h => ?_⟩
  · rw [locationsAt?_built] at hls
    obtain ⟨root, rfl, hroot⟩ := openedHosts_root hls
    simp [hroot]
  · cases h
  · cases h

theorem shadowed_fallback : ∃ b ∈ (store.shadowed now defaultService resources).backends.values,
    b.name = defaultBackendName ∧ b.noServer = false := by
  have hbuilt : (store.built now defaultService resources).backends.get? defaultBackendName =
      some (store.fallback defaultService) := by
    rw [built_backends, get?_buildBackends, if_pos (store.fallback_spec defaultService).1]
  obtain ⟨w, hw, hbare⟩ := Table.get?_of_map_eq (store.wired_bare now defaultService resources).symm hbuilt
  have hserver : w.noServer = false := by
    have hflag : w.noServer = (store.fallback defaultService).noServer := by
      simpa using congrArg Backend.noServer hbare
    rw [hflag, (store.fallback_spec defaultService).2.1]
  have hthere : (store.shadowed now defaultService resources).backends.contains defaultBackendName := by
    refine contains_shadowed.2 ⟨Table.contains_iff.2 ⟨w, hw⟩, ?_⟩
    rintro ⟨⟨b, hb, hcanary⟩, _⟩
    obtain rfl : w = b := Option.some.inj (hw.symm.trans hb)
    simp [hserver] at hcanary
  obtain ⟨b, hb⟩ := Table.contains_iff.1 hthere
  obtain ⟨w', hw', hhull⟩ := Draft.attachCanaries_hull hb
  obtain rfl : w = w' := Option.some.inj (hw.symm.trans hw')
  have hflag : w.noServer = b.noServer := by simpa using congrArg Backend.noServer hhull
  exact ⟨b, Table.mem_values.2 ⟨_, hb⟩, shadowed_named _ b hb, hflag.symm.trans hserver⟩

theorem used_of_noServer {b : Backend}
    (hb : b ∈ (store.shadowed now defaultService resources).backends.values) (hcanary : b.noServer = true) :
    (∃ primary, Lists (store.shadowed now defaultService resources).backends primary b.name) ∨
      ∃ l ∈ (store.shadowed now defaultService resources).locations, l.backend = b.name := by
  have hget : (store.shadowed now defaultService resources).backends.get? b.name = some b :=
    shadowed_named.get?_of_mem hb
  obtain ⟨hthere, hkept⟩ := contains_shadowed.1 (Table.contains_iff.2 ⟨b, hget⟩)
  obtain ⟨w, hw, hhull⟩ := Draft.attachCanaries_hull hget
  have hflag : w.noServer = b.noServer := by simpa using congrArg Backend.noServer hhull
  -- the stage has a reason to keep it: primaries, and a target that is not idle
  rw [Draft.Abandons, not_and, not_or] at hkept
  obtain ⟨hprimaries, hbusy⟩ := hkept ⟨w, hw, hflag.trans hcanary⟩
  simp only [not_forall] at hbusy
  obtain ⟨target, htarget, halternative, hidle⟩ := hbusy
  rw [CanaryTarget.idle_iff (store.wired_backends_named now defaultService resources),
    Classical.not_not] at hidle
  obtain ⟨v, hv, ⟨l, hl, hown⟩ | ⟨primary, hprimary, haccepts⟩⟩ := hidle
  · refine .inr ⟨l, ?_, hown.trans halternative⟩
    rw [shadowed_locations]
    exact mem_locations.2 ⟨target.2.host, v.locations, by simp [locationsAt?, hv], hl⟩
  · refine .inl ⟨primary, lists_shadowed.2 ⟨hprimaries, hthere, halternative ▸ haccepts, target, htarget,
      halternative, v.locations, by simp [locationsAt?, hv], CanaryTarget.mem_primaries.1 hprimary⟩⟩

end Store

/-- The canary stage lists an alternative at a backend exactly if a canary's target for it is aimed at a
location on that backend, be it of a rule or a placeholder; and a placeholder is always the root of its host. So
the cluster's default backend gets alternatives wherever canaries are aimed at a location on it. -/
theorem shadowed_lists (store : Store) (now : Instant) (defaultService : Option String)
    (resources : List RoutedIngress) :
    let wired := store.wired now defaultService resources
    let shadowed := store.shadowed now defaultService resources
    (∀ b ∈ shadowed.backends.values, ∀ name, name ∈ b.alternatives ↔
      primaries resources ≠ [] ∧ wired.backends.contains name ∧ (b.noServer = false ∧ b.name ≠ name) ∧
        ∃ target ∈ allTargets resources, target.2.alternative = name ∧ target.2.AimsAt wired.hosts b.name) ∧
    (∀ host ls, locationsAt? wired.hosts host = some ls → ∀ l ∈ ls, l.isFallback = true → l.key = rootKey) ∧
    ∃ b ∈ shadowed.backends.values, b.name = defaultBackendName ∧ b.noServer = false := by
  intro wired shadowed
  refine ⟨fun b hb name => ?_, Store.allLocations_fallback, Store.shadowed_fallback⟩
  rw [← Store.lists_iff hb, Store.lists_shadowed, Store.accepts_iff hb]

/-- A canary for the root of a host that no rule claims: its backend becomes an alternative of the cluster's
default backend, on which there are placeholders only. -/
theorem alternative_of_placeholder :
    let store := Store.withOptions {}
    let site := store.routed (pathIngress "ns" "site" "a.com" "/api" "Prefix" "api")
    let shadow := store.routed (annotated (rootIngress "ns" "shadow" "a.com" "web") "canary" "true")
    let shadowed := store.shadowed ⟨0, 0⟩ none [site, shadow]
    (∃ b ∈ shadowed.backends.values, b.name = defaultBackendName ∧ b.alternatives = ["ns-web-80"]) ∧
      ∀ l ∈ shadowed.locations, l.backend = defaultBackendName → l.isFallback = true := by
  decide +kernel

/-- After the canary stage the alternatives are settled, and what it has removed are backends of canaries that
nothing lists. -/
theorem shadowed_settled (store : Store) (now : Instant) (defaultService : Option String)
    (resources : List RoutedIngress) :
    let wired := store.wired now defaultService resources
    let shadowed := store.shadowed now defaultService resources
    shadowed.Settled ∧ ∀ b ∈ wired.backends.values, b.name ∉ shadowed.backends.keys →
      b.noServer = true ∧ ∀ primary ∈ shadowed.backends.values, b.name ∉ primary.alternatives := by
  intro wired shadowed
  have hpresent : ∀ b ∈ shadowed.backends.values, ∀ name ∈ b.alternatives,
      name ∈ shadowed.backends.keys := by
    intro b hb name hname
    have hget : shadowed.backends.get? b.name = some b := Store.shadowed_named.get?_of_mem hb
    exact Table.mem_keys.2
      (Draft.attachCanaries_alternatives (fun _ _ => Store.wired_alternatives) hget name hname)
  have haccepts : ∀ b ∈ shadowed.backends.values, ∀ name ∈ b.alternatives,
      b.noServer = false ∧ b.name ≠ name := by
    intro b hb name hname
    have hlists := Store.lists_shadowed.1 ((Store.lists_iff hb).2 hname)
    exact (Store.accepts_iff hb).1 hlists.2.2.1
  refine ⟨⟨hpresent, fun b hb name hname => (haccepts b hb name hname).2.symm, ?_, ?_, ?_⟩, ?_⟩
  · intro b hb
    exact Draft.listedOnce_attachCanaries (fun _ _ => Store.wired_alternatives) _ b
      (Store.shadowed_named.get?_of_mem hb)
  · intro b hb hcanary
    refine List.eq_nil_iff_forall_not_mem.2 fun name hname => ?_
    have hserver := (haccepts b hb name hname).1
    simp [hcanary] at hserver
  · intro b hb hcanary
    refine (Store.used_of_noServer hb hcanary).imp_left ?_
    rintro ⟨k, primary, hprimary, hlisted⟩
    exact ⟨primary, Table.mem_values.2 ⟨k, hprimary⟩, hlisted⟩
  · intro b hb hgone
    have hwired : wired.backends.get? b.name = some b :=
      Table.Named.get?_of_mem (store.wired_backends_named now defaultService resources) hb
    have habandoned : wired.Abandons resources b.name := by
      rw [Table.mem_keys, Store.contains_shadowed, not_and, Classical.not_not] at hgone
      exact hgone (Table.contains_iff.2 ⟨b, hwired⟩)
    obtain ⟨⟨b', hb', hcanary⟩, _⟩ := habandoned
    obtain rfl : b = b' := Option.some.inj (hwired.symm.trans hb')
    exact ⟨hcanary, fun primary hprimary hlisted => hgone (hpresent primary hprimary _ hlisted)⟩

end IngressPlane
