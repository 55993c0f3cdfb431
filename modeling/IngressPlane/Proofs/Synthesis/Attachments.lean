import IngressPlane.Proofs.Synthesis.Alternatives

/-! What the canary stage does to the backends that it leaves, to the last field. Each pair of an alternative and
a primary is attached once, in the order of the targets (`Draft.attachments`). This puts the alternative at the
end of the primary's list, and its affinity is from then on the one that the primary has at this time, unless its
canary is a legacy one. Whether the alternative is a canary's own backend or a live one makes no difference
(`shadowed_live`). -/
namespace IngressPlane

variable {hosts : Table VirtualHost} {backends : Table Backend} {m : Merging} {placed : List Attachment}
  {k : String} {store : Store} {now : Instant} {defaultService : Option String}
  {resources : List RoutedIngress}

instance (backends : Table Backend) (alternative primary : String) :
    Decidable (Accepts backends alternative primary) :=
  decidable_of_iff ((backends.get? primary).any fun b => b.name ≠ alternative && !b.noServer) (by
    simp [Accepts, Option.any_eq_true])

structure Attachment where
  legacy : Bool
  alternative : String
  primary : String
  deriving DecidableEq

namespace Attachment

def Possible (backends : Table Backend) (a : Attachment) : Prop :=
  backends.contains a.alternative ∧ Accepts backends a.alternative a.primary

instance (backends : Table Backend) (a : Attachment) : Decidable (a.Possible backends) :=
  inferInstanceAs (Decidable (_ ∧ _))

def isSamePair (a b : Attachment) : Bool := a.alternative = b.alternative && a.primary = b.primary

/-- Adds an attachment, unless the same alternative is at the same primary already. -/
def record (placed : List Attachment) (a : Attachment) : List Attachment :=
  if placed.any a.isSamePair then placed else placed ++ [a]

def recordAll (backends : Table Backend) (placed tried : List Attachment) : List Attachment :=
  (tried.filter (·.Possible backends)).foldl record placed

def listedAt (placed : List Attachment) (primary : String) : List String :=
  (placed.filter (·.primary = primary)).map (·.alternative)

def adopt (affinities : String → BackendAffinity) (a : Attachment) (name : String) : BackendAffinity :=
  if a.legacy = false ∧ name = a.alternative then affinities a.primary else affinities name

def affinityAfter (backends : Table Backend) (placed : List Attachment) : String → BackendAffinity :=
  placed.foldl adopt fun name => ((backends.get? name).map (·.affinity)).getD {}

def settle (backends : Table Backend) (placed : List Attachment) (b : Backend) : Backend :=
  { b with
    affinity := affinityAfter backends placed b.name
    alternatives := b.alternatives ++ listedAt placed b.name }

theorem recordAll_cons (backends : Table Backend) (placed : List Attachment) (a : Attachment)
    (tried : List Attachment) :
    recordAll backends placed (a :: tried) =
      recordAll backends (if a.Possible backends then record placed a else placed) tried := by
  unfold recordAll
  rw [List.filter_cons]
  by_cases hpossible : a.Possible backends <;> simp [hpossible]

theorem recordAll_append (backends : Table Backend) (placed tried more : List Attachment) :
    recordAll backends placed (tried ++ more) =
      recordAll backends (recordAll backends placed tried) more := by
  simp only [recordAll, List.filter_append, List.foldl_append]

theorem mem_of_mem_record {a b : Attachment} (h : b ∈ record placed a) : b ∈ placed ∨ b = a := by
  unfold record at h
  split at h
  · exact .inl h
  · exact (List.mem_append.1 h).imp_right List.mem_singleton.1

theorem mem_of_mem_recordAll {tried : List Attachment} {a : Attachment}
    (ha : a ∈ recordAll backends placed tried) :
    a ∈ placed ∨ a ∈ tried ∧ a.Possible backends := by
  induction tried generalizing placed with
  | nil => exact .inl ha
  | cons first rest ih =>
    rw [recordAll_cons] at ha
    rcases ih ha with hfirst | ⟨hrest, hpossible⟩
    · split at hfirst
      next hpossible =>
        refine (mem_of_mem_record hfirst).imp_right ?_
        rintro rfl
        exact ⟨List.mem_cons_self, hpossible⟩
      next => exact .inl hfirst
    · exact .inr ⟨List.mem_cons_of_mem _ hrest, hpossible⟩

/-- Nothing but an attachment as the alternative of a canary that is not a legacy one changes an affinity. -/
theorem foldl_adopt_of_legacy (affinities : String → BackendAffinity)
    (h : ∀ a ∈ placed, a.alternative = k → a.legacy = true) :
    placed.foldl adopt affinities k = affinities k := by
  induction placed generalizing affinities with
  | nil => rfl
  | cons a rest ih =>
    have hfirst : adopt affinities a k = affinities k := by
      refine if_neg ?_
      rintro ⟨hlive, rfl⟩
      simp [h a List.mem_cons_self rfl] at hlive
    rw [List.foldl_cons, ih _ fun b hb => h b (List.mem_cons_of_mem _ hb), hfirst]

theorem settle_nil (b : Backend) (hget : backends.get? b.name = some b) : settle backends [] b = b := by
  cases b
  simp [settle, affinityAfter, listedAt, hget]

end Attachment

open Attachment

namespace Merging

/-- The backends of a merge are what some attachments have made of those at its start. -/
def Reflects (start : Table Backend) (placed : List Attachment) (m : Merging) : Prop :=
  ∀ k, m.backends.get? k = (start.get? k).map (settle start placed)

variable {start : Table Backend}

theorem Reflects.hull (h : m.Reflects start placed) :
    m.backends.map Backend.hull = start.map Backend.hull := by
  refine Table.ext_get? fun k => ?_
  rw [Table.get?_map, h k, Table.get?_map, Option.map_map]
  rfl

theorem Reflects.attach (hnamed : start.Named Backend.name)
    (hbare : ∀ k b, start.get? k = some b → b.alternatives = []) (h : m.Reflects start placed)
    {a : Attachment} (hthere : start.contains a.alternative) :
    (m.attach a.legacy a.alternative a.primary).Reflects start
      (if a.Possible start then record placed a else placed) := by
  rcases m.attach_cases a.legacy a.alternative a.primary with
    ⟨hnot, heq⟩ | ⟨backend, merged, hbackend, haccepts, heq, hmerged⟩
  · have himpossible : ¬ a.Possible start := fun hp => hnot ((accepts_congr h.hull).2 hp.2)
    rwa [if_neg himpossible, heq]
  · have hpossible : a.Possible start := ⟨hthere, (accepts_congr h.hull).1 haccepts⟩
    obtain ⟨b, hb, rfl⟩ := Option.map_eq_some_iff.1 ((h a.primary).symm.trans hbackend)
    have hname : b.name = a.primary := hnamed _ b hb
    have hlisted : a.alternative ∈ (settle start placed b).alternatives ↔
        placed.any a.isSamePair := by
      simp only [settle, hbare _ b hb, List.nil_append, listedAt, hname, List.mem_map, List.mem_filter,
        List.any_eq_true, isSamePair, decide_eq_true_eq, Bool.and_eq_true]
      exact exists_congr fun c => ⟨fun ⟨⟨hc, hp⟩, ha⟩ => ⟨hc, ha.symm, hp.symm⟩,
        fun ⟨hc, ha, hp⟩ => ⟨⟨hc, hp.symm⟩, ha.symm⟩⟩
    rw [if_pos hpossible, heq, record]
    rcases hmerged with ⟨hold, rfl⟩ | ⟨hnew, rfl⟩
    · rwa [if_pos (hlisted.1 hold)]
    · rw [if_neg (hlisted.not.1 hnew)]
      intro k
      rw [get?_joined_eq a.legacy a.alternative hbackend k, h k, Option.map_map]
      refine Option.map_congr fun c hc => ?_
      have hk : c.name = k := hnamed k c hc
      simp only [Function.comp_apply, settle, affinityAfter, listedAt, List.foldl_append, List.foldl_cons,
        List.foldl_nil, adopt, List.filter_append, List.map_append, hk, hname]
      by_cases hprimary : a.primary = k
      · simp [hprimary]
      · simp [hprimary, Ne.symm hprimary]

theorem Reflects.attachAll (hnamed : start.Named Backend.name)
    (hbare : ∀ k b, start.get? k = some b → b.alternatives = []) (legacy : Bool) {alternative : String}
    (hthere : start.contains alternative) (primaries : List String) (h : m.Reflects start placed) :
    (primaries.foldl (Merging.attach legacy alternative) m).Reflects start
      (recordAll start placed (primaries.map (Attachment.mk legacy alternative))) := by
  induction primaries generalizing m placed with
  | nil => exact h
  | cons primary primaries ih =>
    rw [List.foldl_cons, List.map_cons, recordAll_cons]
    exact ih (h.attach hnamed hbare (a := ⟨legacy, alternative, primary⟩) hthere)

end Merging

/-- What a target is to attach: its alternative, at all primaries that it is aimed at. -/
def CanaryTarget.attempts (hosts : Table VirtualHost) (target : Bool × CanaryTarget) : List Attachment :=
  (target.2.primaries ((locationsAt? hosts target.2.host).getD [])).map
    (Attachment.mk target.1 target.2.alternative)

theorem CanaryTarget.mem_attempts {target : Bool × CanaryTarget} {a : Attachment} :
    a ∈ CanaryTarget.attempts hosts target ↔
      a.legacy = target.1 ∧ a.alternative = target.2.alternative ∧ target.2.AimsAt hosts a.primary := by
  obtain ⟨legacy, alternative, primary⟩ := a
  unfold CanaryTarget.attempts CanaryTarget.AimsAt
  cases locationsAt? hosts target.2.host with
  | none => simp [CanaryTarget.primaries, CanaryTarget.reached]
  | some ls =>
    simp only [Option.getD_some, List.mem_map, CanaryTarget.mem_primaries, Option.some.injEq, exists_eq_left',
      Attachment.mk.injEq]
    grind

namespace Merging

variable {start : Table Backend}

theorem Reflects.target (hnamed : start.Named Backend.name)
    (hbare : ∀ k b, start.get? k = some b → b.alternatives = []) (h : m.Reflects start placed)
    (hosts : Table VirtualHost) (target : Bool × CanaryTarget) :
    (m.target hosts target).Reflects start
      (recordAll start placed (CanaryTarget.attempts hosts target)) := by
  obtain ⟨legacy, t⟩ := target
  unfold Merging.target
  by_cases hthere : start.contains t.alternative
  · have hcontains : m.backends.contains t.alternative := (contains_congr h.hull).trans hthere
    simp only [hcontains, Bool.not_true, Bool.false_eq_true, if_false]
    cases hhost : hosts.get? t.host with
    | none =>
      have hno : CanaryTarget.attempts hosts (legacy, t) = [] := by
        simp [CanaryTarget.attempts, locationsAt?, hhost, CanaryTarget.primaries, CanaryTarget.reached]
      rw [hno]
      exact h
    | some v =>
      have hattempts : CanaryTarget.attempts hosts (legacy, t) =
          (t.primaries v.locations).map (Attachment.mk legacy t.alternative) := by
        simp [CanaryTarget.attempts, locationsAt?, hhost]
      rw [hattempts]
      refine Reflects.attachAll hnamed hbare legacy hthere _ fun k => ?_
      rw [noteOwn_backends]
      exact h k
  · have hgone : ¬ m.backends.contains t.alternative := fun hc => hthere ((contains_congr h.hull).symm.trans hc)
    have hnone : (CanaryTarget.attempts hosts (legacy, t)).filter (·.Possible start) = [] := by
      refine List.filter_eq_nil_iff.2 fun a ha => ?_
      have halternative := (CanaryTarget.mem_attempts.1 ha).2.1
      simp [Attachment.Possible, halternative, hthere]
    simp only [hgone, recordAll, hnone, List.foldl_nil]
    exact h

theorem Reflects.targets (hnamed : start.Named Backend.name)
    (hbare : ∀ k b, start.get? k = some b → b.alternatives = []) (hosts : Table VirtualHost)
    (targets : List (Bool × CanaryTarget)) (h : m.Reflects start placed) :
    (targets.foldl (Merging.target hosts) m).Reflects start
      (recordAll start placed (targets.flatMap (CanaryTarget.attempts hosts))) := by
  induction targets generalizing m placed with
  | nil => exact h
  | cons target targets ih =>
    rw [List.foldl_cons, List.flatMap_cons, recordAll_append]
    exact ih (h.target hnamed hbare hosts target)

end Merging

namespace Draft

variable {d : Draft}

def attachments (d : Draft) (resources : List RoutedIngress) : List Attachment :=
  if primaries resources = [] then []
  else recordAll d.backends [] ((allTargets resources).flatMap (CanaryTarget.attempts d.hosts))

/-- The canary stage leaves what its attachments make of the backends that were there. -/
theorem get?_attachCanaries (hnamed : d.backends.Named Backend.name)
    (hbare : ∀ k b, d.backends.get? k = some b → b.alternatives = []) {w : Backend}
    (hw : d.backends.get? w.name = some w) (hlive : w.noServer = false) :
    (d.attachCanaries resources).backends.get? w.name =
      some (settle d.backends (d.attachments resources) w) := by
  by_cases hempty : primaries resources = []
  · rw [get?_attachCanaries_of_none hempty, attachments, if_pos hempty, settle_nil w hw, hw,
      Option.filter_some, hlive]
    simp
  · have hstart : ({ backends := d.backends } : Merging).Reflects d.backends [] := by
      intro k
      cases hb : d.backends.get? k with
      | none => rfl
      | some b =>
        have hself : d.backends.get? b.name = some b := by rwa [hnamed k b hb]
        rw [Option.map_some, settle_nil b hself]
    have hreflects := hstart.targets hnamed hbare d.hosts (allTargets resources)
    rw [get?_attachCanaries_of_primaries hempty, attachments, if_neg hempty]
    have hget : (d.targeted resources).backends.get? w.name = some (settle d.backends _ w) :=
      (hreflects w.name).trans (by rw [hw, Option.map_some])
    rw [hget, Option.filter_some]
    simp [settle, hlive]

end Draft

/-- The canary stage keeps each live backend. It appends the alternatives that are attached there, and puts its
affinity to what the attachments make of it: the one it had, unless it is itself the alternative of a canary that
is not a legacy one. All else stays. -/
theorem shadowed_live (store : Store) (now : Instant) (defaultService : Option String)
    (resources : List RoutedIngress) :
    let wired := store.wired now defaultService resources
    let shadowed := store.shadowed now defaultService resources
    let attachments := wired.attachments resources
    (∀ w ∈ wired.backends.values, w.noServer = false →
      shadowed.backends.get? w.name = some { w with
        affinity := affinityAfter wired.backends attachments w.name
        alternatives := w.alternatives ++ listedAt attachments w.name } ∧
      ((∀ a ∈ attachments, a.alternative = w.name → a.legacy = true) →
        affinityAfter wired.backends attachments w.name = w.affinity)) ∧
    ∀ a ∈ attachments, a.Possible wired.backends ∧ ∃ target ∈ allTargets resources,
      a.legacy = target.1 ∧ a.alternative = target.2.alternative ∧ target.2.AimsAt wired.hosts a.primary := by
  intro wired shadowed attachments
  have hnamed : wired.backends.Named Backend.name := store.wired_backends_named now defaultService resources
  refine ⟨fun w hw hlive => ?_, fun a ha => ?_⟩
  · have hget : wired.backends.get? w.name = some w := hnamed.get?_of_mem hw
    refine ⟨Draft.get?_attachCanaries hnamed (fun _ _ => Store.wired_alternatives) hget hlive, fun h => ?_⟩
    have hkept := foldl_adopt_of_legacy (fun name => ((wired.backends.get? name).map (·.affinity)).getD {}) h
    rwa [hget] at hkept
  · have htried : a ∈ recordAll wired.backends []
        ((allTargets resources).flatMap (CanaryTarget.attempts wired.hosts)) := by
      simp only [attachments, Draft.attachments] at ha
      split at ha
      · cases ha
      · exact ha
    obtain ⟨hattempt, hpossible⟩ := (mem_of_mem_recordAll htried).resolve_left List.not_mem_nil
    obtain ⟨target, htarget, hmem⟩ := List.mem_flatMap.1 hattempt
    exact ⟨hpossible, target, htarget, CanaryTarget.mem_attempts.1 hmem⟩

/-- The live backend of `b.com` gets the cookies of `a.com`, since a canary of `a.com` leads to it. -/
example :
    let store := Store.withOptions {}
    let site := store.routed (annotated (rootIngress "ns" "site" "a.com" "web") "affinity" "cookie")
    let shop := store.routed (rootIngress "ns" "shop" "b.com" "api")
    let shadow := store.routed (annotated (rootIngress "ns" "shadow" "a.com" "api") "canary" "true")
    let kind (d : Draft) := (d.backends.get? "ns-api-80").map fun b => (b.noServer, b.affinity.kind)
    kind (store.wired ⟨0, 0⟩ none [site, shop, shadow]) = some (false, "") ∧
      kind (store.shadowed ⟨0, 0⟩ none [site, shop, shadow]) = some (false, "cookie") := by
  decide +kernel

end IngressPlane
