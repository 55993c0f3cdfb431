import IngressPlane.Proofs.Synthesis.Hosts
import IngressPlane.Synthesis.Synthesize

/-! Prefix expansion and sorting. An expanded location differs from the one it comes from in nothing but
its paths and its type, and it is tried at the paths of `Location.servedPaths`. -/
namespace IngressPlane

variable {keys : List (String × PathType)} {l l' : Location} {hosts : Table VirtualHost}

def Location.content (l : Location) : Location :=
  { l with path := "", ingressPath := "", pathType := .under }

@[simp] theorem Location.content_backend (l : Location) : l.content.backend = l.backend := rfl
@[simp] theorem Location.content_standIn (l : Location) : l.content.standIn = l.standIn := rfl
@[simp] theorem Location.content_owner (l : Location) : l.content.owner = l.owner := rfl
@[simp] theorem Location.content_policy (l : Location) : l.content.policy = l.policy := rfl
@[simp] theorem Location.content_isFallback (l : Location) : l.content.isFallback = l.isFallback := rfl

/-- The paths at which an expanded location is tried: its own, and with a slash at its end unless it is
left as it is. An exact location that is there already keeps the path without the slash. -/
def Location.servedPaths (keys : List (String × PathType)) (l : Location) : List String :=
  if l.path = rootPath || l.isLeftAs keys then [l.path]
  else if keys.contains (l.path, .exact) then [slashEnded l.path]
  else [slashEnded l.path, l.path]

namespace Location

def written (l : Location) : Location := { l with ingressPath := l.path }

def slashed (l : Location) : Location := { l.written with path := slashEnded l.path }

def exactCopy (l : Location) : Location := { l.written with pathType := .exact }

theorem expand_eq (keys : List (String × PathType)) (l : Location) :
    l.expand keys =
      if l.path = rootPath then [l]
      else if l.isLeftAs keys then [l.written]
      else if keys.contains (l.path, .exact) then [l.slashed]
      else [l.slashed, l.exactCopy] := rfl

/-- What a location is expanded to: itself, or some of the three forms of it. -/
theorem expand_cases (h : l' ∈ l.expand keys) :
    (l' = l ∧ l.path = rootPath) ∨ l' = l.written ∨
      l.isLeftAs keys = false ∧ (l' = l.slashed ∨ l' = l.exactCopy ∧ (l.path, .exact) ∉ keys) := by
  rw [expand_eq] at h
  split at h
  next hroot => exact .inl ⟨List.mem_singleton.1 h, hroot⟩
  next =>
    split at h
    next => exact .inr (.inl (List.mem_singleton.1 h))
    next hleft =>
      refine .inr (.inr ⟨by simpa using hleft, ?_⟩)
      split at h
      next => exact .inl (List.mem_singleton.1 h)
      next hexact =>
        rcases List.mem_cons.1 h with h | h
        · exact .inl h
        · exact .inr ⟨List.mem_singleton.1 h, by simpa using hexact⟩

theorem content_expand (h : l' ∈ l.expand keys) : l'.content = l.content := by
  rcases expand_cases h with ⟨rfl, _⟩ | rfl | ⟨_, rfl | ⟨rfl, _⟩⟩ <;> rfl

theorem map_path_expand (keys : List (String × PathType)) (l : Location) :
    (l.expand keys).map (·.path) = l.servedPaths keys := by
  rw [expand_eq, servedPaths]
  by_cases hroot : l.path = rootPath
  · simp [hroot]
  · by_cases hleft : l.isLeftAs keys
    · simp [hroot, hleft, written]
    · simp only [hroot, hleft, decide_false, Bool.or_self, Bool.false_eq_true, if_false]
      split <;> rfl

end Location

theorem Location.expand_ne_nil (keys : List (String × PathType)) (l : Location) : l.expand keys ≠ [] := by
  intro h
  have hpaths := l.map_path_expand keys
  rw [h, List.map_nil] at hpaths
  unfold Location.servedPaths at hpaths
  split at hpaths
  · cases hpaths
  · split at hpaths <;> cases hpaths

theorem mem_arrange {v : VirtualHost} :
    l' ∈ v.arrange.locations ↔ ∃ l ∈ v.locations, l' ∈ l.expand (v.locations.map Location.key) := by
  unfold VirtualHost.arrange sortLocations
  rw [(List.mergeSort_perm _ _).mem_iff]
  exact List.mem_flatMap

theorem exists_arranged_iff {P : Location → Prop} (hP : ∀ l l', l'.content = l.content → (P l' ↔ P l)) :
    (∃ l ∈ (hosts.map VirtualHost.arrange).values.flatMap (·.locations), P l) ↔
      ∃ l ∈ hosts.values.flatMap (·.locations), P l := by
  simp only [Table.values_map, List.flatMap_map, List.mem_flatMap, mem_arrange]
  constructor
  · rintro ⟨l', ⟨v, hv, l, hl, hmem⟩, h⟩
    exact ⟨l, ⟨v, hv, hl⟩, (hP l l' (Location.content_expand hmem)).1 h⟩
  · rintro ⟨l, ⟨v, hv, hl⟩, h⟩
    obtain ⟨l', hmem⟩ := List.exists_mem_of_ne_nil _ (l.expand_ne_nil (v.locations.map Location.key))
    exact ⟨l', ⟨v, hv, l, hl, hmem⟩, (hP l l' (Location.content_expand hmem)).2 h⟩

end IngressPlane
