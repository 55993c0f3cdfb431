import IngressPlane.Proofs.Synthesis.StandIns
import Mathlib.Data.List.Nodup

/-! Where stand-ins lead. The backends pass a location one after another, and a pass may put the location on
another backend; still only the one that it was on at first changes it (`foldl_pass_of_mem`). So a location with a
service that stands in ends on a backend with endpoints, whatever the backends were (`addStandIns_stocked`). -/
namespace IngressPlane

variable {store : Store} {backend : Backend} {backends : List Backend} {l : Location} {s : StandIns} {d : Draft}

namespace Location

theorem pass_of_ne (h : l.backend ≠ backend.name) : l.pass store backend = l := by
  unfold pass standBy
  rw [if_pos h, ite_self]

theorem pass_of_routed {name : String} {endpoints : List Endpoint}
    (hstand : l.standIn? store = some (name, endpoints)) (backend : Backend) :
    { l with standIn := name, backend := name }.pass store backend =
      { l with standIn := name, backend := name } := by
  unfold pass
  split
  · rfl
  · rcases standBy_cases { l with standIn := name, backend := name } store backend with
      ⟨_, heq⟩ | ⟨name', _, target, _, hstand', htarget, heq⟩
    · exact heq
    · obtain ⟨rfl, _⟩ := Prod.mk.inj (Option.some.inj (hstand.symm.trans hstand'))
      obtain rfl : target = name := htarget.elim id id
      exact heq

theorem foldl_pass_of_absent (h : l.backend ∉ backends.map Backend.name) :
    backends.foldl (·.pass store ·) l = l :=
  List.foldlRecOn (motive := fun l' => l' = l) _ _ rfl fun l' hl' backend hbackend => by
    subst hl'
    exact pass_of_ne fun heq => h (List.mem_map.2 ⟨backend, hbackend, heq.symm⟩)

theorem absent_of_nodup {before after : List Backend}
    (hnodup : ((before ++ backend :: after).map Backend.name).Nodup) (h : l.backend = backend.name) :
    l.backend ∉ before.map Backend.name ∧ l.backend ∉ after.map Backend.name := by
  rw [List.map_append, List.map_cons, List.nodup_middle, List.nodup_cons, ← h, List.mem_append, not_or] at hnodup
  exact hnodup.1

/-- Of backends with distinct names only the one that a location is on changes it: after its pass the location
is on the same one, which does not pass again, or on its stand-in. -/
theorem foldl_pass_of_mem (hnodup : (backends.map Backend.name).Nodup) (hmem : backend ∈ backends)
    (h : l.backend = backend.name) : backends.foldl (·.pass store ·) l = l.pass store backend := by
  obtain ⟨before, after, rfl⟩ := List.append_of_mem hmem
  obtain ⟨hbefore, hafter⟩ := absent_of_nodup hnodup h
  rw [List.foldl_append, List.foldl_cons, foldl_pass_of_absent hbefore]
  by_cases hdefault : backend.name = defaultBackendName
  · have hpass : l.pass store backend = l := if_pos hdefault
    rw [hpass, foldl_pass_of_absent hafter]
  · have hpass : l.pass store backend = l.standBy store backend := if_neg hdefault
    rw [hpass]
    rcases l.standBy_cases store backend with ⟨_, heq⟩ | ⟨name, endpoints, target, _, hstand, htarget, heq⟩
    · rw [heq, foldl_pass_of_absent hafter]
    · rw [heq]
      rcases htarget with rfl | rfl
      · exact List.foldl_fixed' (pass_of_routed hstand) after
      · exact foldl_pass_of_absent hafter

theorem pass_of_standsIn {service : Service} {endpoints : List Endpoint} (h : l.backend = backend.name)
    (hdefault : backend.name ≠ defaultBackendName) (hservice : l.policy.defaultBackend = some service)
    (hstands : store.StandsIn service endpoints) :
    l.pass store backend = { l with
      standIn := standInName service
      backend := if backend.endpoints = [] then standInName service else l.backend } := by
  have hstand : l.standIn? store = some (standInName service, endpoints) :=
    standIn?_eq_some_iff.2 ⟨service, hservice, rfl, hstands⟩
  unfold pass standBy
  rw [if_neg hdefault, if_neg (not_not_intro h)]
  simp only [hstand, List.isEmpty_iff]

theorem pass_of_not_standsIn (h : ∀ service endpoints, l.policy.defaultBackend = some service →
      backend.name ≠ defaultBackendName → ¬ store.StandsIn service endpoints) :
    l.pass store backend = l := by
  unfold pass
  split
  · rfl
  next hdefault =>
    rcases l.standBy_cases store backend with ⟨_, heq⟩ | ⟨_, endpoints, _, _, hstand, _⟩
    · exact heq
    · obtain ⟨service, hservice, _, hstands⟩ := standIn?_eq_some_iff.1 hstand
      exact (h service endpoints hservice hdefault hstands).elim

end Location

namespace StandIns

theorem contains_foldl_step {name : String} (backends : List Backend) (h : s.added.contains name) :
    (backends.foldl (step store) s).added.contains name := by
  refine List.foldlRecOn (motive := fun s : StandIns => s.added.contains name) _ _ h fun s h backend _ => ?_
  by_cases hdefault : backend.name = defaultBackendName
  · have hself : s.step store backend = s := if_pos hdefault
    rwa [hself]
  · exact (contains_step_added hdefault).2 (.inl h)

theorem contains_added_of_mem (hnodup : (backends.map Backend.name).Nodup) (hmem : backend ∈ backends)
    (hdefault : backend.name ≠ defaultBackendName) (hl : l ∈ s.locations) (h : l.backend = backend.name)
    {name : String} {endpoints : List Endpoint} (hstand : l.standIn? store = some (name, endpoints)) :
    (backends.foldl (step store) s).added.contains name := by
  obtain ⟨before, after, rfl⟩ := List.append_of_mem hmem
  have hbefore := (Location.absent_of_nodup hnodup h).1
  have hstays : l ∈ (before.foldl (step store) s).locations := by
    unfold locations
    rw [foldl_step_hosts, Table.values_map, List.flatMap_map, ← List.map_flatMap]
    exact List.mem_map.2 ⟨l, hl, Location.foldl_pass_of_absent hbefore⟩
  rw [List.foldl_append, List.foldl_cons]
  exact contains_foldl_step after ((contains_step_added hdefault).2 (.inr ⟨l, hstays, h, endpoints, hstand⟩))

end StandIns

namespace Draft

def Stocked (d : Draft) (name : String) : Prop :=
  ∃ backend, d.backends.get? name = some backend ∧ backend.endpoints ≠ []

theorem standIns_endpoints {name : String} (h : (d.standIns store).added.get? name = some backend) :
    backend.endpoints ≠ [] := by
  have hrun : (d.standIns store).added.Named Backend.name ∧
      ∀ k b, (d.standIns store).added.get? k = some b → b.endpoints ≠ [] :=
    List.foldlRecOn (motive := fun s : StandIns => s.added.Named Backend.name ∧
      ∀ k b, s.added.get? k = some b → b.endpoints ≠ []) _ _ ⟨Table.Named.empty, by simp⟩
      fun _ h _ _ => StandIns.step_added (fun _ _ hsome => hsome) h
  exact hrun.2 name backend h

theorem stocked_addStandIns {name : String}
    (h : (d.standIns store).added.contains name ∨ d.Stocked name) : (d.addStandIns store).Stocked name := by
  unfold Stocked
  rw [get?_addStandIns]
  cases hadded : (d.standIns store).added.get? name with
  | some added => exact ⟨added, rfl, standIns_endpoints hadded⟩
  | none =>
    rcases h with h | h
    · simp [Table.contains, hadded] at h
    · exact h

/-- The location is on a backend other than the default one, and its policy names a service that stands in. -/
structure Covers (d : Draft) (store : Store) (l : Location) (primary : Backend) (service : Service) : Prop where
  on : d.backends.get? l.backend = some primary
  own : primary.name ≠ defaultBackendName
  names : l.policy.defaultBackend = some service
  stands : ∃ endpoints, store.StandsIn service endpoints

/-- With the stand-ins added, each location with one that works records it under a name with endpoints, and is on
a backend with endpoints: its stand-in, if its own had none. The other locations stay as they are. -/
theorem addStandIns_stocked (hnamed : d.backends.Named Backend.name) (store : Store) :
    ∃ f : Location → Location,
      (d.addStandIns store).hosts = d.hosts.map (fun h => { h with locations := h.locations.map f }) ∧
      ∀ l ∈ d.locations,
        (∀ primary service, d.Covers store l primary service →
          f l = { l with
            standIn := standInName service
            backend := if primary.endpoints = [] then standInName service else l.backend } ∧
          (d.addStandIns store).Stocked (standInName service) ∧
          (d.addStandIns store).Stocked (f l).backend) ∧
        ((∀ primary service, ¬ d.Covers store l primary service) → f l = l) := by
  refine ⟨fun l => d.backends.values.foldl (·.pass store ·) l,
    StandIns.foldl_step_hosts store d.backends.values { hosts := d.hosts }, fun l hl => ⟨?_, fun h => ?_⟩⟩
  · rintro primary service ⟨hprimary, hdefault, hservice, endpoints, hstands⟩
    have hname : l.backend = primary.name := (hnamed _ _ hprimary).symm
    have hmem : primary ∈ d.backends.values := Table.mem_values.2 ⟨_, hprimary⟩
    have hsettled : d.backends.values.foldl (·.pass store ·) l = { l with
        standIn := standInName service
        backend := if primary.endpoints = [] then standInName service else l.backend } := by
      rw [Location.foldl_pass_of_mem hnamed.nodup_names hmem hname,
        Location.pass_of_standsIn hname hdefault hservice hstands]
    have hstandIn : (d.addStandIns store).Stocked (standInName service) :=
      stocked_addStandIns (.inl (StandIns.contains_added_of_mem (s := { hosts := d.hosts })
        hnamed.nodup_names hmem hdefault hl hname
        (Location.standIn?_eq_some_iff.2 ⟨service, hservice, rfl, hstands⟩)))
    refine ⟨hsettled, hstandIn, ?_⟩
    dsimp only
    rw [hsettled]
    dsimp only
    split
    · exact hstandIn
    next hsome => exact stocked_addStandIns (.inr ⟨primary, hprimary, hsome⟩)
  · dsimp only
    cases hprimary : d.backends.get? l.backend with
    | none =>
      refine Location.foldl_pass_of_absent fun hin => ?_
      rw [hnamed.mem_names, Table.contains, hprimary] at hin
      cases hin
    | some primary =>
      rw [Location.foldl_pass_of_mem hnamed.nodup_names (Table.mem_values.2 ⟨_, hprimary⟩)
        (hnamed _ _ hprimary).symm]
      exact Location.pass_of_not_standsIn fun service endpoints hservice hdefault hstands =>
        h primary service ⟨hprimary, hdefault, hservice, endpoints, hstands⟩

/-- Of two locations with the same stand-in the one on a backend without endpoints goes there. -/
theorem addStandIns_stocked_of_two :
    let spare : Service :=
      { metadata := { scope := some "ns", name := some "spare" }, spec := some { ports := some [{ port := 80 }] } }
    let store : Store := { Store.withOptions {} with
      services := .ofList [("ns/spare", spare)]
      endpoints := .ofList [("ns/spare",
        { subsets := some [{ addresses := some ["10.2.0.1"], ports := some [{ port := 8080 }] }] })] }
    let l (path backend : String) : Location :=
      { Location.at path .under backend with policy := { defaultBackend := some spare } }
    let empty : Backend := { name := "ns-web-80" }
    let full : Backend := { name := "ns-api-80", endpoints := [{ address := "10.1.0.1", port := 8080 }] }
    let d : Draft :=
      { backends := .ofList [("ns-web-80", empty), ("ns-api-80", full)]
        hosts := .ofList [("a.com", { hostname := "a.com", locations := [l "/" "ns-web-80", l "/api" "ns-api-80"] })] }
    d.backends.Named Backend.name ∧
      d.Covers store (l "/" "ns-web-80") empty spare ∧ d.Covers store (l "/api" "ns-api-80") full spare ∧
      (d.addStandIns store).Stocked "custom-default-backend-ns-spare" ∧
      (d.addStandIns store).locations.map (fun l => (l.backend, l.standIn)) =
        [("custom-default-backend-ns-spare", "custom-default-backend-ns-spare"),
          ("ns-api-80", "custom-default-backend-ns-spare")] := by
  intro spare store l empty full d
  have hnamed : d.backends.Named Backend.name := by
    intro name backend hbackend
    have hentries : ∀ e ∈ d.backends.entries, e.2.name = e.1 := by decide +kernel
    exact hentries (name, backend) (Table.get?_eq_some_iff.1 hbackend)
  have hstands : store.StandsIn spare [{ address := "10.2.0.1", port := 8080 }] :=
    ⟨by decide, { port := 80 }, rfl, by decide +kernel⟩
  have hempty : d.Covers store (l "/" "ns-web-80") empty spare := ⟨by decide +kernel, by decide, rfl, _, hstands⟩
  have hfull : d.Covers store (l "/api" "ns-api-80") full spare := ⟨by decide +kernel, by decide, rfl, _, hstands⟩
  obtain ⟨_, _, hl⟩ := addStandIns_stocked hnamed store
  exact ⟨hnamed, hempty, hfull, ((hl _ (by decide +kernel)).1 _ _ hempty).2.1, by decide +kernel⟩

end Draft
end IngressPlane
