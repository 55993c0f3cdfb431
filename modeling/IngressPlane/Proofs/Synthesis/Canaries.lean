import IngressPlane.Proofs.Synthesis.Wired
import IngressPlane.Synthesis.Canary

/-! The canary stage. A merge changes nothing but alternatives and affinities (`attachCanaries_hull`), and
what it removes are the backends of canaries that no target has a use for (`contains_attachCanaries`). -/
namespace IngressPlane

variable {hosts : Table VirtualHost} {backends : Table Backend} {m : Merging} {legacy : Bool}
  {alternative primary name : String} {resources : List RoutedIngress} {d : Draft}

/-- A backend without what a merge may change. -/
def Backend.hull (b : Backend) : Backend := { b with affinity := {}, alternatives := [] }

@[simp] theorem Backend.hull_name (b : Backend) : b.hull.name = b.name := rfl
@[simp] theorem Backend.hull_noServer (b : Backend) : b.hull.noServer = b.noServer := rfl

def Accepts (backends : Table Backend) (alternative primary : String) : Prop :=
  ∃ b, backends.get? primary = some b ∧ b.name ≠ alternative ∧ b.noServer = false

theorem accepts_congr {others : Table Backend}
    (h : others.map Backend.hull = backends.map Backend.hull) :
    Accepts others alternative primary ↔ Accepts backends alternative primary := by
  have himp {s t : Table Backend} (h : s.map Backend.hull = t.map Backend.hull) :
      Accepts s alternative primary → Accepts t alternative primary := by
    rintro ⟨b, hb, hname, hserver⟩
    obtain ⟨b', hb', hhull⟩ := Table.get?_of_map_eq h hb
    have hname' : b'.name = b.name := by simpa using congrArg Backend.name hhull
    have hserver' : b'.noServer = b.noServer := by simpa using congrArg Backend.noServer hhull
    exact ⟨b', hb', by rw [hname']; exact hname, by rw [hserver']; exact hserver⟩
  exact ⟨himp h, himp h.symm⟩

theorem contains_congr {others : Table Backend}
    (h : others.map Backend.hull = backends.map Backend.hull) :
    others.contains name = backends.contains name := by
  rw [← Table.contains_map Backend.hull others, h, Table.contains_map]

/-- The backends with an alternative listed at a primary, whose affinity it takes on unless it is a
legacy canary's. -/
def joined (legacy : Bool) (backends : Table Backend) (alternative primary : String)
    (backend : Backend) : Table Backend :=
  if legacy then backends.insert primary (backend.attach alternative)
  else (backends.insert primary (backend.attach alternative)).modify alternative fun b =>
    { b with affinity := backend.affinity }

theorem get?_joined_eq (legacy : Bool) (alternative : String) {backend : Backend}
    (hbackend : backends.get? primary = some backend) (k : String) :
    (joined legacy backends alternative primary backend).get? k =
      (backends.get? k).map fun b =>
        { b with
          affinity := if legacy = false ∧ k = alternative then backend.affinity else b.affinity
          alternatives := if k = primary then b.alternatives ++ [alternative] else b.alternatives } := by
  have hinsert : (backends.insert primary (backend.attach alternative)).get? k =
      (backends.get? k).map fun b =>
        { b with alternatives := if k = primary then b.alternatives ++ [alternative] else b.alternatives } := by
    rw [Table.get?_insert]
    by_cases hk : primary = k
    · subst hk
      simp [hbackend, Backend.attach]
    · simp [hk, Ne.symm hk]
  unfold joined
  cases legacy with
  | true => simpa using hinsert
  | false =>
    rw [if_neg Bool.false_ne_true, Table.get?_modify, hinsert, Option.map_map]
    by_cases hk : k = alternative <;> simp [hk, Function.comp_def]

theorem get?_joined (legacy : Bool) (alternative : String) {backend : Backend}
    (hbackend : backends.get? primary = some backend) (k : String) :
    ∃ affinity : Backend → BackendAffinity,
      (joined legacy backends alternative primary backend).get? k =
        (backends.get? k).map fun b =>
          { b with
            affinity := affinity b
            alternatives := if k = primary then b.alternatives ++ [alternative] else b.alternatives } :=
  ⟨_, get?_joined_eq legacy alternative hbackend k⟩

theorem joined_hull {backend : Backend} (hbackend : backends.get? primary = some backend) :
    (joined legacy backends alternative primary backend).map Backend.hull =
      backends.map Backend.hull := by
  refine Table.ext_get? fun k => ?_
  obtain ⟨affinity, hget⟩ := get?_joined legacy alternative hbackend k
  rw [Table.get?_map, hget, Table.get?_map, Option.map_map]
  rfl

namespace Merging

/-- Each listed alternative is kept and has a backend. -/
def Attached (m : Merging) : Prop :=
  ∀ k b, m.backends.get? k = some b → ∀ a ∈ b.alternatives, a ∈ m.kept ∧ m.backends.contains a

/-- Attaching does nothing where the primary does not accept the alternative. Otherwise it keeps the
alternative, and lists it at the primary unless it is listed there. -/
theorem attach_cases (legacy : Bool) (alternative : String) (m : Merging) (primary : String) :
    (¬ Accepts m.backends alternative primary ∧ m.attach legacy alternative primary = m) ∨
      ∃ backend merged, m.backends.get? primary = some backend ∧
        Accepts m.backends alternative primary ∧
        m.attach legacy alternative primary =
          { m with backends := merged, kept := alternative :: m.kept } ∧
        (alternative ∈ backend.alternatives ∧ merged = m.backends ∨
          alternative ∉ backend.alternatives ∧
            merged = joined legacy m.backends alternative primary backend) := by
  unfold attach
  split
  next hnone =>
    refine .inl ⟨?_, rfl⟩
    rintro ⟨b, hb, _⟩
    simp [hnone] at hb
  next backend hbackend =>
    by_cases hrefuse : (decide (backend.name = alternative) || backend.noServer) = true
    · refine .inl ⟨?_, if_pos hrefuse⟩
      rintro ⟨b, hb, hname, hserver⟩
      obtain rfl : backend = b := by simpa [hbackend] using hb
      simp [hname, hserver] at hrefuse
    · have haccepts : Accepts m.backends alternative primary :=
        ⟨backend, hbackend, by simpa [not_or] using hrefuse⟩
      by_cases hlisted : backend.alternatives.contains alternative
      · exact .inr ⟨backend, m.backends, hbackend, haccepts,
          by rw [if_neg hrefuse, if_pos hlisted], .inl ⟨by simpa using hlisted, rfl⟩⟩
      · exact .inr ⟨backend, _, hbackend, haccepts,
          by rw [if_neg hrefuse, if_neg hlisted]; rfl, .inr ⟨by simpa using hlisted, rfl⟩⟩

theorem attach_hull (legacy : Bool) (alternative : String) (m : Merging) (primary : String) :
    (m.attach legacy alternative primary).backends.map Backend.hull = m.backends.map Backend.hull := by
  rcases m.attach_cases legacy alternative primary with
    ⟨_, h⟩ | ⟨backend, merged, hbackend, _, h, ⟨_, rfl⟩ | ⟨_, rfl⟩⟩
  · rw [h]
  · rw [h]
  · rw [h]
    exact joined_hull hbackend

theorem attach_seen : (m.attach legacy alternative primary).seen = m.seen := by
  rcases m.attach_cases legacy alternative primary with ⟨_, h⟩ | ⟨_, _, _, _, h, _⟩ <;> rw [h]

theorem mem_attach_kept : name ∈ (m.attach legacy alternative primary).kept ↔
    name ∈ m.kept ∨ name = alternative ∧ Accepts m.backends alternative primary := by
  rcases m.attach_cases legacy alternative primary with ⟨hnot, h⟩ | ⟨_, _, _, haccepts, h, _⟩
  · rw [h]
    simp [hnot]
  · rw [h]
    simp [haccepts, or_comm]

theorem Attached.attach (h : m.Attached) (hcontains : m.backends.contains alternative) :
    (m.attach legacy alternative primary).Attached := by
  intro k b' hb' a ha
  rw [contains_congr (m.attach_hull legacy alternative primary), mem_attach_kept]
  rcases m.attach_cases legacy alternative primary with
    ⟨hnot, heq⟩ | ⟨backend, merged, hbackend, haccepts, heq, hmerged⟩
  · rw [heq] at hb'
    obtain ⟨hkept, hthere⟩ := h k b' hb' a ha
    exact ⟨.inl hkept, hthere⟩
  · have hold : ∃ b, m.backends.get? k = some b ∧ (a ∈ b.alternatives ∨ a = alternative) := by
      rw [heq] at hb'
      rcases hmerged with ⟨_, rfl⟩ | ⟨_, rfl⟩
      · exact ⟨b', hb', .inl ha⟩
      · obtain ⟨affinity, hget⟩ := get?_joined legacy alternative hbackend k
        obtain ⟨b, hb, rfl⟩ := Option.map_eq_some_iff.1 (hget.symm.trans hb')
        refine ⟨b, hb, ?_⟩
        dsimp only at ha
        split at ha
        · simpa using ha
        · exact .inl ha
    obtain ⟨b, hb, hmem | rfl⟩ := hold
    · obtain ⟨hkept, hthere⟩ := h k b hb a hmem
      exact ⟨.inl hkept, hthere⟩
    · exact ⟨.inr ⟨rfl, haccepts⟩, hcontains⟩

/-- A merge `after` another, which may have seen and kept more names, and has kept all that it has
attached if the other one has. -/
structure Follows (m after : Merging) (seen kept : String → Prop) : Prop where
  hull : after.backends.map Backend.hull = m.backends.map Backend.hull
  seen : ∀ name, name ∈ after.seen ↔ name ∈ m.seen ∨ seen name
  kept : ∀ name, name ∈ after.kept ↔ name ∈ m.kept ∨ kept name
  attached : m.Attached → after.Attached

theorem follows_attach (legacy : Bool) (primaries : List String) (m : Merging)
    (hcontains : m.backends.contains alternative) :
    m.Follows (primaries.foldl (Merging.attach legacy alternative) m) (fun _ => False)
      (fun name => name = alternative ∧ ∃ primary ∈ primaries, Accepts m.backends alternative primary) := by
  induction primaries generalizing m with
  | nil => exact ⟨rfl, by simp, by simp, id⟩
  | cons primary primaries ih =>
    have hhull := m.attach_hull legacy alternative primary
    have hrest := ih (m.attach legacy alternative primary) (by rwa [contains_congr hhull])
    refine ⟨hrest.hull.trans hhull, fun name => ?_, fun name => ?_,
      fun hattached => hrest.attached (hattached.attach hcontains)⟩
    · rw [List.foldl_cons, hrest.seen, attach_seen]
    · rw [List.foldl_cons, hrest.kept, mem_attach_kept, or_assoc, ← and_or_left]
      simp only [accepts_congr hhull, List.mem_cons, exists_eq_or_imp]

theorem follows_noteOwn (t : CanaryTarget) (ls : List Location) (m : Merging) :
    m.Follows (m.noteOwn t ls) (fun _ => False)
      (fun name => name = t.alternative ∧ ∃ l ∈ ls, l.backend = t.alternative) := by
  have hown : (∃ l ∈ ls, l.backend = t.alternative) ↔ (t.ownLocation? ls).isSome := by
    simp [CanaryTarget.ownLocation?]
  simp only [hown]
  unfold noteOwn
  cases t.ownLocation? ls with
  | none => exact ⟨rfl, by simp, by simp, id⟩
  | some l =>
    refine ⟨rfl, by simp, fun name => by simp [or_comm], fun hattached k b hb a ha => ?_⟩
    obtain ⟨hkept, hthere⟩ := hattached k b hb a ha
    exact ⟨List.mem_cons_of_mem _ hkept, hthere⟩

end Merging

/-- A target has a use for its alternative: the host has a location that the alternative serves, or a
primary that accepts it. -/
def CanaryTarget.HasUse (t : CanaryTarget) (hosts : Table VirtualHost) (backends : Table Backend) : Prop :=
  ∃ v, hosts.get? t.host = some v ∧ ((∃ l ∈ v.locations, l.backend = t.alternative) ∨
    ∃ primary ∈ t.primaries v.locations, Accepts backends t.alternative primary)

theorem CanaryTarget.hasUse_congr {t : CanaryTarget} {others : Table Backend}
    (h : others.map Backend.hull = backends.map Backend.hull) :
    t.HasUse hosts others ↔ t.HasUse hosts backends := by
  simp only [CanaryTarget.HasUse, accepts_congr h]

namespace Merging

theorem follows_target (hosts : Table VirtualHost) (m : Merging) (target : Bool × CanaryTarget) :
    m.Follows (m.target hosts target)
      (fun name => m.backends.contains name ∧ target.2.alternative = name)
      (fun name => m.backends.contains name ∧ target.2.alternative = name ∧
        target.2.HasUse hosts m.backends) := by
  obtain ⟨legacy, t⟩ := target
  unfold Merging.target
  dsimp only
  by_cases hcontains : m.backends.contains t.alternative
  · have hthere (name : String) : m.backends.contains name ∧ t.alternative = name ↔
        name = t.alternative := by
      refine ⟨fun h => h.2.symm, ?_⟩
      rintro rfl
      exact ⟨hcontains, rfl⟩
    simp only [← and_assoc, hthere, hcontains, Bool.not_true, Bool.false_eq_true, if_false]
    cases hhost : hosts.get? t.host with
    | none =>
      have hnot : ¬ t.HasUse hosts m.backends := by
        rintro ⟨v, hv, _⟩
        simp [hhost] at hv
      exact ⟨rfl, fun name => by simp [or_comm], fun name => by simp [hnot], id⟩
    | some v =>
      have hnoted := follows_noteOwn t v.locations { m with seen := t.alternative :: m.seen }
      have hdone := follows_attach legacy (t.primaries v.locations) _
        ((contains_congr hnoted.hull).trans hcontains)
      refine ⟨hdone.hull.trans hnoted.hull, fun name => ?_, fun name => ?_,
        fun hattached => hdone.attached (hnoted.attached hattached)⟩
      · rw [hdone.seen, hnoted.seen, or_false, or_false, List.mem_cons, or_comm]
      · rw [hdone.kept, hnoted.kept, or_assoc, ← and_or_left]
        simp only [accepts_congr hnoted.hull, CanaryTarget.HasUse, hhost, Option.some.injEq,
          exists_eq_left']
  · have hnot (name : String) : ¬ (m.backends.contains name ∧ t.alternative = name) := by
      rintro ⟨hname, rfl⟩
      exact hcontains hname
    rw [if_pos (by simp [hcontains])]
    exact ⟨rfl, fun name => by simp [hnot],
      fun name => by simp only [← and_assoc, hnot, false_and, or_false], id⟩

/-- After a whole run of targets their alternatives have been seen, and those with a use are kept. -/
theorem follows_targets (hosts : Table VirtualHost) (targets : List (Bool × CanaryTarget)) (m : Merging) :
    m.Follows (targets.foldl (Merging.target hosts) m)
      (fun name => m.backends.contains name ∧ ∃ target ∈ targets, target.2.alternative = name)
      (fun name => m.backends.contains name ∧ ∃ target ∈ targets,
        target.2.alternative = name ∧ target.2.HasUse hosts m.backends) := by
  induction targets generalizing m with
  | nil => exact ⟨rfl, by simp, by simp, id⟩
  | cons target targets ih =>
    have hfirst := follows_target hosts m target
    have hrest := ih (m.target hosts target)
    refine ⟨hrest.hull.trans hfirst.hull, fun name => ?_, fun name => ?_,
      fun hattached => hrest.attached (hfirst.attached hattached)⟩
    · rw [List.foldl_cons, hrest.seen, hfirst.seen, or_assoc, contains_congr hfirst.hull, ← and_or_left]
      simp only [List.mem_cons, exists_eq_or_imp]
    · rw [List.foldl_cons, hrest.kept, hfirst.kept, or_assoc, contains_congr hfirst.hull, ← and_or_left]
      simp only [List.mem_cons, exists_eq_or_imp, CanaryTarget.hasUse_congr hfirst.hull]

end Merging

theorem get?_removeCanary (backends : Table Backend) (name k : String) :
    (removeCanary backends name).1.get? k =
      (backends.get? k).filter fun b => !(decide (name = k) && b.noServer) := by
  unfold removeCanary
  by_cases hk : name = k
  · subst hk
    cases hget : backends.get? name with
    | none => simp [hget]
    | some b => cases hcanary : b.noServer <;> simp [Option.filter, hget, hcanary, Table.get?_erase]
  · have hself : (backends.get? k).filter (fun b => !(decide (name = k) && b.noServer)) =
        backends.get? k := by cases backends.get? k <;> simp [Option.filter, hk]
    rw [hself]
    split
    next b hb => cases b.noServer <;> simp [Table.get?_erase, hk]
    next => rfl

theorem get?_foldl_removeCanary {α : Type} (nameOf : α → String) (xs : List α) (backends : Table Backend)
    (k : String) :
    (xs.foldl (fun backends x => (removeCanary backends (nameOf x)).1) backends).get? k =
      (backends.get? k).filter fun b => !(decide (∃ x ∈ xs, nameOf x = k) && b.noServer) := by
  induction xs generalizing backends with
  | nil => cases hget : backends.get? k <;> simp [Option.filter, hget]
  | cons x xs ih =>
    rw [List.foldl_cons, ih, get?_removeCanary, Option.filter_filter]
    refine congrArg (Option.filter · _) (funext fun b => ?_)
    cases b.noServer <;> simp [Bool.not_or]

theorem foldl_sweep (names : List String) (m : Merging) :
    (names.foldl Merging.sweep m).backends =
      names.foldl (fun backends name => (removeCanary backends name).1) m.backends := by
  induction names generalizing m with
  | nil => rfl
  | cons name names ih => rw [List.foldl_cons, ih]; rfl

/-- No location of the target's host is served by its alternative, and those that it is aimed at are
served by canaries. -/
def CanaryTarget.Idle (t : CanaryTarget) (d : Draft) : Prop :=
  ∀ v, d.hosts.get? t.host = some v → ∀ l ∈ v.locations, l.backend ≠ t.alternative ∧
    (t.isAt l → ∀ b, d.backends.get? l.backend = some b → b.noServer)

theorem CanaryTarget.idle_iff (hnamed : d.backends.Named Backend.name) {t : CanaryTarget} :
    t.Idle d ↔ ¬ t.HasUse d.hosts d.backends := by
  unfold Idle HasUse
  cases hhost : d.hosts.get? t.host with
  | none => simp
  | some v =>
    simp only [Option.some.injEq, forall_eq', exists_eq_left', not_or]
    constructor
    · intro hidle
      refine ⟨fun ⟨l, hl, hown⟩ => (hidle l hl).1 hown, ?_⟩
      rintro ⟨_, hprimary, b, hb, _, hserver⟩
      obtain ⟨l, hl, rfl⟩ := List.mem_map.1 hprimary
      obtain ⟨hreached, hat⟩ := List.mem_filter.1 hl
      have hcanary := (hidle l (List.takeWhile_subset _ hreached)).2 hat b hb
      simp [hserver] at hcanary
    · rintro ⟨hown, hprimary⟩ l hl
      refine ⟨fun heq => hown ⟨l, hl, heq⟩, fun hat b hb => ?_⟩
      have hreached : t.reached v.locations = v.locations := by
        have hall : ∀ l ∈ v.locations, decide (l.backend ≠ t.alternative) := fun l hl =>
          decide_eq_true fun heq => hown ⟨l, hl, heq⟩
        have hself : (v.locations ++ []).takeWhile (fun l => decide (l.backend ≠ t.alternative)) =
            v.locations ++ [].takeWhile _ := List.takeWhile_append_of_pos hall
        rwa [List.append_nil, List.takeWhile_nil, List.append_nil] at hself
      refine Decidable.byContradiction fun hserver => hprimary ⟨l.backend, ?_, b, hb, ?_, ?_⟩
      · exact List.mem_map.2 ⟨l, List.mem_filter.2 ⟨hreached.symm ▸ hl, hat⟩, rfl⟩
      · rw [hnamed _ b hb]
        exact fun heq => hown ⟨l, hl, heq⟩
      · simpa using hserver

/-- What the canary stage removes: the backend of a canary, where there is nothing to shadow, or where all
targets with this alternative are idle. -/
def Draft.Abandons (d : Draft) (resources : List RoutedIngress) (name : String) : Prop :=
  (∃ b, d.backends.get? name = some b ∧ b.noServer) ∧
    (primaries resources = [] ∨
      ∀ target ∈ allTargets resources, target.2.alternative = name → target.2.Idle d)

namespace Draft

theorem attachCanaries_hosts (d : Draft) (resources : List RoutedIngress) :
    (d.attachCanaries resources).hosts = d.hosts := by
  unfold attachCanaries
  split <;> rfl

/-- The merge before it removes what it does not keep. -/
def targeted (d : Draft) (resources : List RoutedIngress) : Merging :=
  (allTargets resources).foldl (Merging.target d.hosts) { backends := d.backends }

theorem follows_targeted (d : Draft) (resources : List RoutedIngress) :
    ({ backends := d.backends } : Merging).Follows (d.targeted resources)
      (fun name => d.backends.contains name ∧
        ∃ target ∈ allTargets resources, target.2.alternative = name)
      (fun name => d.backends.contains name ∧ ∃ target ∈ allTargets resources,
        target.2.alternative = name ∧ target.2.HasUse d.hosts d.backends) :=
  Merging.follows_targets d.hosts (allTargets resources) { backends := d.backends }

/-- A merge takes away the canary backends that it has seen and not kept, and nothing else. -/
theorem get?_mergeCanaries (d : Draft) (resources : List RoutedIngress) (k : String) :
    (mergeCanaries resources d.hosts d.backends).backends.get? k =
      ((d.targeted resources).backends.get? k).filter fun b =>
        !(decide (k ∈ (d.targeted resources).seen ∧ k ∉ (d.targeted resources).kept) && b.noServer) := by
  have hsweep : (mergeCanaries resources d.hosts d.backends).backends =
      (((ascending (d.targeted resources).seen).filter fun name =>
        !(d.targeted resources).kept.contains name).foldl Merging.sweep (d.targeted resources)).backends := rfl
  rw [hsweep, foldl_sweep, get?_foldl_removeCanary (fun name : String => name)]
  simp [mem_ascending]

theorem get?_mergeCanaries_of_accepts {alternative k : String} (haccepts : Accepts d.backends alternative k) :
    (mergeCanaries resources d.hosts d.backends).backends.get? k = (d.targeted resources).backends.get? k := by
  rw [← accepts_congr (d.follows_targeted resources).hull] at haccepts
  obtain ⟨b, hb, _, hserver⟩ := haccepts
  rw [get?_mergeCanaries, hb, Option.filter_some, hserver]
  simp

theorem attachCanaries_backends_of_primaries (h : primaries resources ≠ []) :
    (d.attachCanaries resources).backends = (mergeCanaries resources d.hosts d.backends).backends := by
  simp only [attachCanaries, List.isEmpty_iff, h, if_false]

theorem get?_attachCanaries_of_primaries (h : primaries resources ≠ []) (k : String) :
    (d.attachCanaries resources).backends.get? k =
      ((d.targeted resources).backends.get? k).filter fun b =>
        !(decide (k ∈ (d.targeted resources).seen ∧ k ∉ (d.targeted resources).kept) && b.noServer) := by
  rw [attachCanaries_backends_of_primaries h, get?_mergeCanaries]

theorem get?_attachCanaries_of_none (h : primaries resources = []) (k : String) :
    (d.attachCanaries resources).backends.get? k =
      (d.backends.get? k).filter fun b =>
        !(decide (∃ target ∈ allTargets resources, target.2.alternative = k) && b.noServer) := by
  simp only [attachCanaries, h, List.isEmpty_nil, if_true, pruneCanaries]
  exact get?_foldl_removeCanary (fun target : Bool × CanaryTarget => target.2.alternative) _ _ k

/-- The canary stage takes away what it abandons, and nothing else. -/
theorem contains_attachCanaries (hnamed : d.backends.Named Backend.name)
    (hcanary : ∀ name b, d.backends.get? name = some b → b.noServer →
      ∃ target ∈ allTargets resources, target.2.alternative = name) (name : String) :
    (d.attachCanaries resources).backends.contains name ↔
      d.backends.contains name ∧ ¬ d.Abandons resources name := by
  unfold Abandons
  by_cases hempty : primaries resources = []
  · rw [Table.contains, get?_attachCanaries_of_none hempty]
    cases hb : d.backends.get? name with
    | none => simp [Table.contains, hb]
    | some b =>
      cases hserver : b.noServer with
      | false => simp [Table.contains, hb, hserver, Option.filter]
      | true =>
        have htarget := hcanary name b hb hserver
        simp [Table.contains, hb, hserver, hempty, htarget, Option.filter]
  · have hfollows := d.follows_targeted resources
    rw [Table.contains, get?_attachCanaries_of_primaries hempty]
    cases hb : d.backends.get? name with
    | none =>
      have hsame : (d.targeted resources).backends.contains name = d.backends.contains name :=
        contains_congr hfollows.hull
      have hgone : (d.targeted resources).backends.get? name = none := by
        simpa [Table.contains, hb] using hsame
      simp [Table.contains, hb, hgone]
    | some b =>
      have hthere : d.backends.contains name := Table.contains_iff.2 ⟨b, hb⟩
      obtain ⟨b', hb', hhull⟩ := Table.get?_of_map_eq hfollows.hull.symm hb
      have hserver' : b'.noServer = b.noServer := by simpa using congrArg Backend.noServer hhull
      cases hserver : b.noServer with
      | false => simp [hb', hserver', hserver, hthere, Option.filter]
      | true =>
        have hseen : name ∈ (d.targeted resources).seen :=
          (hfollows.seen name).2 (.inr ⟨hthere, hcanary name b hb hserver⟩)
        have hlost : name ∉ (d.targeted resources).kept ↔
            ∀ target ∈ allTargets resources, target.2.alternative = name → target.2.Idle d := by
          rw [hfollows.kept]
          simp only [CanaryTarget.idle_iff hnamed, hthere, List.not_mem_nil, false_or, true_and,
            not_exists, not_and]
        rw [← hlost]
        simp [hb', hserver', hserver, hthere, hempty, hseen, Option.filter]

theorem attachCanaries_alternatives (hnone : ∀ k b, d.backends.get? k = some b → b.alternatives = [])
    {k : String} {b : Backend} (hb : (d.attachCanaries resources).backends.get? k = some b) :
    ∀ a ∈ b.alternatives, (d.attachCanaries resources).backends.contains a := by
  intro a ha
  by_cases hempty : primaries resources = []
  · rw [get?_attachCanaries_of_none hempty] at hb
    have hold := hnone k b (Option.filter_eq_some_iff.1 hb).1
    simp [hold] at ha
  · have hstart : ({ backends := d.backends } : Merging).Attached := fun k b hb a ha => by
      simp [hnone k b hb] at ha
    rw [get?_attachCanaries_of_primaries hempty] at hb
    obtain ⟨hkept, hthere⟩ := (d.follows_targeted resources).attached hstart k b
      (Option.filter_eq_some_iff.1 hb).1 a ha
    obtain ⟨c, hc⟩ := Table.contains_iff.1 hthere
    rw [Table.contains, get?_attachCanaries_of_primaries hempty, hc]
    simp [hkept, Option.filter]

theorem attachCanaries_hull {k : String} {b : Backend}
    (hb : (d.attachCanaries resources).backends.get? k = some b) :
    ∃ b', d.backends.get? k = some b' ∧ b'.hull = b.hull := by
  by_cases hempty : primaries resources = []
  · rw [get?_attachCanaries_of_none hempty] at hb
    exact ⟨b, (Option.filter_eq_some_iff.1 hb).1, rfl⟩
  · rw [get?_attachCanaries_of_primaries hempty] at hb
    exact Table.get?_of_map_eq (d.follows_targeted resources).hull (Option.filter_eq_some_iff.1 hb).1

theorem attachCanaries_named (hnamed : d.backends.Named Backend.name) :
    (d.attachCanaries resources).backends.Named Backend.name := by
  intro k b hb
  obtain ⟨b', hb', hhull⟩ := attachCanaries_hull hb
  rw [← hnamed k b' hb']
  simpa using congrArg Backend.name hhull.symm

end Draft
end IngressPlane
