import IngressPlane.Proofs.Tables
import IngressPlane.Synthesis.StandIns

/-! Stand-ins. The stand-in of a location is decided by its policy alone, so a location that passes several
backends records the same one. Every recorded stand-in is added, and every one that is added is recorded
(`recorded_addStandIns`). -/
namespace IngressPlane

variable {store : Store} {backend : Backend} {l : Location} {s : StandIns} {origin : List String}

theorem standInName_ne (service : Service) : standInName service ≠ "" := by
  intro h
  unfold standInName at h
  rw [String.append_eq_empty_iff, String.append_eq_empty_iff] at h
  exact absurd h.1.2 (by decide)

/-- A service can stand in if its first port leads to endpoints. -/
def Store.StandsIn (store : Store) (service : Service) (endpoints : List Endpoint) : Prop :=
  endpoints ≠ [] ∧ ∃ port, (service.ports?.getD []).head? = some port ∧
    store.resolve (service.metadata.scopeText ++ "/" ++ service.metadata.anyName) (.number port.port) =
      .ok endpoints

theorem Store.standIn?_eq_some_iff {service : Service} {name : String} {endpoints : List Endpoint} :
    store.standIn? service = some (name, endpoints) ↔
      name = standInName service ∧ store.StandsIn service endpoints := by
  unfold Store.standIn? Store.StandsIn
  cases hport : (service.ports?.getD []).head? with
  | none => simp
  | some port =>
    cases hresolve : store.resolve (service.metadata.scopeText ++ "/" ++ service.metadata.anyName)
        (.number port.port) with
    | error e => simp [hresolve]
    | ok found => cases found <;> grind

theorem Location.standIn?_eq_some_iff {name : String} {endpoints : List Endpoint} :
    l.standIn? store = some (name, endpoints) ↔ ∃ service, l.policy.defaultBackend = some service ∧
      name = standInName service ∧ store.StandsIn service endpoints := by
  simp only [Location.standIn?, Option.bind_eq_some_iff, Store.standIn?_eq_some_iff]

theorem Location.standIn?_ne {name : String} {endpoints : List Endpoint}
    (h : l.standIn? store = some (name, endpoints)) : name ≠ "" := by
  obtain ⟨service, _, rfl, _⟩ := Location.standIn?_eq_some_iff.1 h
  exact standInName_ne service

def Location.skeleton (l : Location) : Location := { l with backend := "", standIn := "" }

theorem Location.standBy_cases (l : Location) (store : Store) (backend : Backend) :
    ((l.backend ≠ backend.name ∨ l.standIn? store = none) ∧ l.standBy store backend = l) ∨
      ∃ name endpoints target, l.backend = backend.name ∧ l.standIn? store = some (name, endpoints) ∧
        (target = name ∨ target = l.backend) ∧
        l.standBy store backend = { l with standIn := name, backend := target } := by
  unfold Location.standBy
  by_cases hbackend : l.backend = backend.name
  · rw [if_neg (not_not_intro hbackend)]
    cases hstand : l.standIn? store with
    | none => exact .inl ⟨.inr rfl, rfl⟩
    | some found =>
      refine .inr ⟨found.1, found.2, _, hbackend, rfl, ?_, rfl⟩
      split
      · exact .inl rfl
      · exact .inr rfl
  · exact .inl ⟨.inl hbackend, if_pos hbackend⟩

theorem Location.standBy_skeleton (l : Location) (store : Store) (backend : Backend) :
    (l.standBy store backend).skeleton = l.skeleton := by
  rcases l.standBy_cases store backend with ⟨_, h⟩ | ⟨_, _, _, _, _, _, h⟩
  · rw [h]
  · rw [h]
    rfl

theorem Location.standBy_standIn? (l : Location) (store : Store) (backend : Backend) :
    (l.standBy store backend).standIn? store = l.standIn? store := by
  rcases l.standBy_cases store backend with ⟨_, h⟩ | ⟨_, _, _, _, _, _, h⟩
  · rw [h]
  · rw [h]
    rfl

/-- What a pass of `backend` does to a location; the default backend passes without effect. -/
def Location.pass (l : Location) (store : Store) (backend : Backend) : Location :=
  if backend.name = defaultBackendName then l else l.standBy store backend

theorem Location.pass_skeleton (l : Location) (store : Store) (backend : Backend) :
    (l.pass store backend).skeleton = l.skeleton := by
  unfold Location.pass
  split
  · rfl
  · exact l.standBy_skeleton store backend

namespace StandIns

def locations (s : StandIns) : List Location := s.hosts.values.flatMap (·.locations)

theorem step_hosts (store : Store) (s : StandIns) (backend : Backend) :
    (s.step store backend).hosts =
      s.hosts.map fun h => { h with locations := h.locations.map (·.pass store backend) } := by
  unfold step Location.pass
  split
  · exact Table.ext_get? fun k => by simp
  · rfl

theorem step_locations (store : Store) (s : StandIns) (backend : Backend) :
    (s.step store backend).locations = s.locations.map (·.pass store backend) := by
  unfold locations
  rw [step_hosts, Table.values_map, List.flatMap_map, List.map_flatMap]

theorem foldl_step_hosts (store : Store) (backends : List Backend) (s : StandIns) :
    (backends.foldl (step store) s).hosts = s.hosts.map fun h =>
      { h with locations := h.locations.map fun l => backends.foldl (·.pass store ·) l } := by
  induction backends generalizing s with
  | nil => exact Table.ext_get? fun k => by simp
  | cons backend backends ih =>
    rw [List.foldl_cons, ih, step_hosts]
    exact Table.ext_get? fun k => by simp [Function.comp_def]

theorem contains_step_added (h : backend.name ≠ defaultBackendName) {name : String} :
    (s.step store backend).added.contains name ↔ s.added.contains name ∨
      ∃ l ∈ s.locations, l.backend = backend.name ∧
        ∃ endpoints, l.standIn? store = some (name, endpoints) := by
  have hadded : (s.step store backend).added = (standInsFor store backend s.hosts).foldl
      (fun t b => t.insertNew b.name b) s.added := by
    unfold step
    rw [if_neg h]
  have hfor : (∃ b ∈ standInsFor store backend s.hosts, b.name = name) ↔
      ∃ l ∈ s.locations, l.backend = backend.name ∧
        ∃ endpoints, l.standIn? store = some (name, endpoints) := by
    simp only [standInsFor, List.mem_filterMap, List.mem_filter, decide_eq_true_eq,
      Option.map_eq_some_iff, locations]
    constructor
    · rintro ⟨_, ⟨l, ⟨hl, hbackend⟩, ⟨found, endpoints⟩, hstand, rfl⟩, rfl⟩
      exact ⟨l, hl, hbackend, endpoints, hstand⟩
    · rintro ⟨l, hl, hbackend, endpoints, hstand⟩
      exact ⟨_, ⟨l, ⟨hl, hbackend⟩, (name, endpoints), hstand, rfl⟩, rfl⟩
  rw [← hfor, hadded, Table.contains, Table.get?_foldl_insertNew, Option.isSome_or, Option.isSome_map,
    Bool.or_eq_true, Table.contains]
  simp

/-- The stand-ins on the way: each recorded one is that of the location's policy and has been added, each
added one is recorded, and a location leads to where it led at first or to its stand-in. -/
structure Recorded (store : Store) (origin : List String) (s : StandIns) : Prop where
  own : ∀ l ∈ s.locations, l.standIn ≠ "" → ∃ endpoints, l.standIn? store = some (l.standIn, endpoints)
  present : ∀ l ∈ s.locations, l.standIn ≠ "" → s.added.contains l.standIn
  used : ∀ name, s.added.contains name → ∃ l ∈ s.locations, l.standIn ≠ "" ∧ l.standIn = name
  routed : ∀ l ∈ s.locations, l.backend ∈ origin ∨ l.standIn ≠ "" ∧ l.backend = l.standIn

theorem Recorded.name_eq (h : s.Recorded store origin) (hl : l ∈ s.locations) (hne : l.standIn ≠ "")
    {name : String} {endpoints : List Endpoint} (hstand : l.standIn? store = some (name, endpoints)) :
    name = l.standIn := by
  obtain ⟨_, hown⟩ := h.own l hl hne
  rw [hstand, Option.some.injEq, Prod.mk.injEq] at hown
  exact hown.1

theorem Recorded.step (h : s.Recorded store origin) (backend : Backend) :
    (s.step store backend).Recorded store origin := by
  by_cases hdefault : backend.name = defaultBackendName
  · have hself : s.step store backend = s := if_pos hdefault
    rwa [hself]
  · have hlocations : (s.step store backend).locations = s.locations.map (·.standBy store backend) := by
      rw [step_locations]
      exact List.map_congr_left fun l _ => if_neg hdefault
    have hmem {l' : Location} (hl' : l' ∈ (s.step store backend).locations) :
        ∃ l ∈ s.locations, l.standBy store backend = l' := by
      rw [hlocations] at hl'
      exact List.mem_map.1 hl'
    refine ⟨fun l' hl' hne => ?_, fun l' hl' hne => ?_, fun name hname => ?_, fun l' hl' => ?_⟩
    · obtain ⟨l, hl, rfl⟩ := hmem hl'
      rw [Location.standBy_standIn?]
      rcases l.standBy_cases store backend with ⟨_, heq⟩ | ⟨name, endpoints, _, _, hstand, _, heq⟩
      · rw [heq] at hne ⊢
        exact h.own l hl hne
      · rw [heq]
        exact ⟨endpoints, hstand⟩
    · obtain ⟨l, hl, rfl⟩ := hmem hl'
      rw [contains_step_added hdefault]
      rcases l.standBy_cases store backend with ⟨_, heq⟩ | ⟨name, endpoints, _, hbackend, hstand, _, heq⟩
      · rw [heq] at hne ⊢
        exact .inl (h.present l hl hne)
      · rw [heq]
        exact .inr ⟨l, hl, hbackend, endpoints, hstand⟩
    · rw [contains_step_added hdefault] at hname
      simp only [hlocations, List.mem_map]
      rcases hname with hname | ⟨l, hl, hbackend, endpoints, hstand⟩
      · obtain ⟨l, hl, hne, rfl⟩ := h.used name hname
        refine ⟨_, ⟨l, hl, rfl⟩, ?_⟩
        rcases l.standBy_cases store backend with ⟨_, heq⟩ | ⟨_, _, _, _, hstand, _, heq⟩
        · rw [heq]
          exact ⟨hne, rfl⟩
        · obtain rfl := h.name_eq hl hne hstand
          rw [heq]
          exact ⟨hne, rfl⟩
      · refine ⟨_, ⟨l, hl, rfl⟩, ?_⟩
        rcases l.standBy_cases store backend with ⟨hnot, _⟩ | ⟨name', _, _, _, hstand', _, heq⟩
        · simp [hbackend, hstand] at hnot
        · obtain ⟨rfl, _⟩ : name' = name ∧ _ := by simpa [hstand, eq_comm] using hstand'
          rw [heq]
          exact ⟨Location.standIn?_ne hstand, rfl⟩
    · obtain ⟨l, hl, rfl⟩ := hmem hl'
      rcases l.standBy_cases store backend with ⟨_, heq⟩ | ⟨name, _, target, _, hstand, htarget, heq⟩
      · rw [heq]
        exact h.routed l hl
      · have hne : name ≠ "" := Location.standIn?_ne hstand
        rw [heq]
        rcases htarget with rfl | rfl
        · exact .inr ⟨hne, rfl⟩
        · rcases h.routed l hl with horigin | ⟨hrecorded, hled⟩
          · exact .inl horigin
          · obtain rfl := h.name_eq hl hrecorded hstand
            exact .inr ⟨hne, hled⟩

theorem step_added {P : Backend → Prop}
    (hcopy : ∀ name endpoints, endpoints ≠ [] → P { backend with name, endpoints })
    (h : s.added.Named Backend.name ∧ ∀ k b, s.added.get? k = some b → P b) :
    (s.step store backend).added.Named Backend.name ∧
      ∀ k b, (s.step store backend).added.get? k = some b → P b := by
  unfold step
  split
  · exact h
  · refine List.foldlRecOn (motive := fun t : Table Backend =>
      t.Named Backend.name ∧ ∀ k b, t.get? k = some b → P b) _ _ h fun t ht b hb => ?_
    obtain ⟨l, _, hl⟩ := List.mem_filterMap.1 hb
    obtain ⟨⟨name, endpoints⟩, hstand, rfl⟩ := Option.map_eq_some_iff.1 hl
    obtain ⟨_, _, _, hsome, _⟩ := Location.standIn?_eq_some_iff.1 hstand
    refine ⟨ht.1.insertNew rfl, fun k b hk => ?_⟩
    rcases Table.get?_insertNew_cases hk with hk | rfl
    · exact ht.2 k b hk
    · exact hcopy name endpoints hsome

end StandIns

namespace Draft

variable {d : Draft}

def standIns (d : Draft) (store : Store) : StandIns :=
  d.backends.values.foldl (StandIns.step store) { hosts := d.hosts }

theorem recorded_addStandIns (hplain : ∀ l ∈ d.locations, l.standIn = "") :
    (d.standIns store).Recorded store (d.locations.map (·.backend)) := by
  refine List.foldlRecOn _ _ ?_ fun _ h backend _ => h.step backend
  exact ⟨fun l hl hne => (hne (hplain l hl)).elim, fun l hl hne => (hne (hplain l hl)).elim,
    fun name hname => by simp [Table.contains] at hname, fun l hl => .inl (List.mem_map.2 ⟨l, hl, rfl⟩)⟩

theorem get?_addStandIns (d : Draft) (store : Store) (name : String) :
    (d.addStandIns store).backends.get? name =
      ((d.standIns store).added.get? name).or (d.backends.get? name) := Table.get?_overlay _ _ _

theorem contains_addStandIns {name : String} : (d.addStandIns store).backends.contains name ↔
    d.backends.contains name ∨ (d.standIns store).added.contains name := by
  rw [Table.contains, get?_addStandIns, Option.isSome_or, Bool.or_eq_true, or_comm]
  rfl

/-- With stand-ins each backend still stands under its name, and is a copy of one that was there before, but for
its name and its endpoints. -/
theorem addStandIns_backends (hnamed : d.backends.Named Backend.name) :
    (d.addStandIns store).backends.Named Backend.name ∧
      ∀ k b, (d.addStandIns store).backends.get? k = some b →
        ∃ k' b', d.backends.get? k' = some b' ∧ b = { b' with name := b.name, endpoints := b.endpoints } := by
  have hadded : (d.standIns store).added.Named Backend.name ∧
      ∀ k b, (d.standIns store).added.get? k = some b →
        ∃ k' b', d.backends.get? k' = some b' ∧ b = { b' with name := b.name, endpoints := b.endpoints } := by
    refine List.foldlRecOn (motive := fun s : StandIns => s.added.Named Backend.name ∧
      ∀ k b, s.added.get? k = some b →
        ∃ k' b', d.backends.get? k' = some b' ∧ b = { b' with name := b.name, endpoints := b.endpoints }) _ _
      ⟨Table.Named.empty, by simp⟩ fun s h backend hbackend => ?_
    obtain ⟨k, hk⟩ := Table.mem_values.1 hbackend
    exact StandIns.step_added (P := fun b => ∃ k' b', d.backends.get? k' = some b' ∧
      b = { b' with name := b.name, endpoints := b.endpoints }) (fun _ _ _ => ⟨k, backend, hk, rfl⟩) h
  refine ⟨hnamed.overlay hadded.1, fun k b hb => ?_⟩
  rw [get?_addStandIns] at hb
  cases hown : (d.standIns store).added.get? k with
  | none => exact ⟨k, b, by simpa [hown] using hb, rfl⟩
  | some b' =>
    obtain rfl : b' = b := by simpa [hown] using hb
    exact hadded.2 k b' hown

theorem addStandIns_hosts (d : Draft) (store : Store) :
    ∃ f : Location → Location, (∀ l, (f l).skeleton = l.skeleton) ∧
      (d.addStandIns store).hosts = d.hosts.map fun h => { h with locations := h.locations.map f } := by
  refine ⟨fun l => d.backends.values.foldl (·.pass store ·) l, fun l => ?_,
    StandIns.foldl_step_hosts store d.backends.values { hosts := d.hosts }⟩
  exact List.foldlRecOn (motive := fun l' : Location => l'.skeleton = l.skeleton) _ _ rfl
    fun l' h backend _ => (l'.pass_skeleton store backend).trans h

end Draft
end IngressPlane
