import IngressPlane.Proofs.Tables
import IngressPlane.Synthesis.Backends

/-! The first reference to a backend configures it for good. `get?_buildBackends` gives the whole table:
under each name the backend of the first reference that yields the name. -/
namespace IngressPlane

namespace Store

def fallback (store : Store) (defaultService : Option String) : Backend :=
  (store.defaultBackend defaultService).1

theorem fallback_eq (store : Store) (defaultService : Option String) :
    ∃ service endpoints, store.fallback defaultService = { name := defaultBackendName, service, endpoints } := by
  unfold fallback defaultBackend
  split
  · exact ⟨none, _, rfl⟩
  · split
    · exact ⟨none, _, rfl⟩
    · exact ⟨some _, _, rfl⟩

theorem fallback_spec (store : Store) (defaultService : Option String) :
    (store.fallback defaultService).name = defaultBackendName ∧
      (store.fallback defaultService).noServer = false ∧
      (store.fallback defaultService).alternatives = [] := by
  obtain ⟨service, endpoints, heq⟩ := store.fallback_eq defaultService
  rw [heq]
  exact ⟨rfl, rfl, rfl⟩

end Store

variable {store : Store} {resources : List RoutedIngress} {fallback : Backend}

def referenceName (reference : RoutedIngress × ServiceRef) : String :=
  reference.1.backendName reference.2

namespace Backend

def configured (store : Store) (reference : RoutedIngress × ServiceRef) : Backend :=
  (ofReference store reference.1 reference.2).1

@[simp] theorem configured_name (store : Store) (reference : RoutedIngress × ServiceRef) :
    (configured store reference).name = referenceName reference := rfl

@[simp] theorem configured_noServer (store : Store) (reference : RoutedIngress × ServiceRef) :
    (configured store reference).noServer = reference.1.isCanary := rfl

@[simp] theorem configured_alternatives (store : Store) (reference : RoutedIngress × ServiceRef) :
    (configured store reference).alternatives = [] := rfl

theorem addReference_fst (store : Store) (built : Table Backend × List Diagnostic)
    (reference : RoutedIngress × ServiceRef) :
    (addReference store built reference).1 =
      built.1.insertNew (referenceName reference) (configured store reference) := by
  unfold addReference Table.insertNew
  by_cases h : built.1.contains (reference.1.backendName reference.2) <;>
    simp [h, referenceName, configured]

end Backend

namespace Store

theorem buildBackends_fst (store : Store) (resources : List RoutedIngress) (fallback : Backend) :
    (store.buildBackends resources fallback).1 =
      (allReferences resources).foldl
        (fun t reference => t.insertNew (referenceName reference) (Backend.configured store reference))
        (Table.empty.insert fallback.name fallback) := by
  have hrun (references : List (RoutedIngress × ServiceRef))
      (built : Table Backend × List Diagnostic) :
      (references.foldl (Backend.addReference store) built).1 =
        references.foldl (fun t reference =>
          t.insertNew (referenceName reference) (Backend.configured store reference)) built.1 := by
    induction references generalizing built with
    | nil => rfl
    | cons reference references ih =>
      rw [List.foldl_cons, ih, Backend.addReference_fst, List.foldl_cons]
  exact hrun _ _

theorem get?_buildBackends (store : Store) (resources : List RoutedIngress) (fallback : Backend)
    (name : String) :
    (store.buildBackends resources fallback).1.get? name =
      if fallback.name = name then some fallback
      else ((allReferences resources).find? (referenceName · = name)).map (Backend.configured store) := by
  rw [buildBackends_fst, Table.get?_foldl_insertNew, Table.get?_insert, Table.get?_empty]
  split <;> simp

/-- What a backend is: the fallback, or configured by a reference to it. -/
theorem buildBackends_cases {name : String} {backend : Backend}
    (h : (store.buildBackends resources fallback).1.get? name = some backend) :
    (fallback.name = name ∧ backend = fallback) ∨
      ∃ reference ∈ allReferences resources, referenceName reference = name ∧
        backend = Backend.configured store reference := by
  rw [get?_buildBackends] at h
  split at h
  next hname => exact .inl ⟨hname, (Option.some.inj h).symm⟩
  next =>
    obtain ⟨reference, hfind, rfl⟩ := Option.map_eq_some_iff.1 h
    exact .inr ⟨reference, List.mem_of_find?_eq_some hfind,
      by simpa using List.find?_some hfind, rfl⟩

theorem buildBackends_named (store : Store) (resources : List RoutedIngress) (fallback : Backend) :
    (store.buildBackends resources fallback).1.Named Backend.name := by
  intro name backend h
  rcases buildBackends_cases h with ⟨hname, rfl⟩ | ⟨reference, _, rfl, rfl⟩
  · exact hname
  · exact Backend.configured_name store reference

theorem buildBackends_contains_fallback :
    (store.buildBackends resources fallback).1.contains fallback.name := by
  simp [Table.contains, get?_buildBackends]

theorem buildBackends_contains {reference : RoutedIngress × ServiceRef}
    (h : reference ∈ allReferences resources) :
    (store.buildBackends resources fallback).1.contains (referenceName reference) := by
  simp only [Table.contains, get?_buildBackends]
  split
  · rfl
  · simpa using ⟨reference.1, reference.2, h, rfl⟩

theorem get?_buildBackends_append (store : Store) (resources more : List RoutedIngress) (fallback : Backend)
    (name : String) : (store.buildBackends (resources ++ more) fallback).1.get? name =
      ((store.buildBackends resources fallback).1.get? name).or
        ((store.buildBackends more fallback).1.get? name) := by
  have hrefs : allReferences (resources ++ more) = allReferences resources ++ allReferences more :=
    List.flatMap_append
  simp only [get?_buildBackends, hrefs, List.find?_append]
  split
  · rfl
  · exact Option.map_or

theorem buildBackends_append {more : List RoutedIngress} {name : String}
    (h : (store.buildBackends resources fallback).1.contains name) :
    (store.buildBackends (resources ++ more) fallback).1.get? name =
      (store.buildBackends resources fallback).1.get? name := by
  obtain ⟨backend, hget⟩ := Table.contains_iff.1 h
  rw [get?_buildBackends_append, hget, Option.some_or]

end Store

theorem mem_allReferences {reference : RoutedIngress × ServiceRef} :
    reference ∈ allReferences resources ↔
      reference.1 ∈ resources ∧ reference.2 ∈ reference.1.serviceRefs := by
  obtain ⟨r, service⟩ := reference
  simp only [allReferences, List.mem_flatMap, List.mem_map, Prod.mk.injEq]
  constructor
  · rintro ⟨r', hr, service', hs, rfl, rfl⟩
    exact ⟨hr, hs⟩
  · rintro ⟨hr, hs⟩
    exact ⟨r, hr, service, hs, rfl, rfl⟩

end IngressPlane
