import IngressPlane.Admission.Overlap
import IngressPlane.Proofs.Policy.Reader
import IngressPlane.Proofs.Store.Keyed
import IngressPlane.Proofs.Synthesis.OwnPolicies

/-! Authentication. Once its kind can be read, an ingress is secured or denied, and so are all its locations.
But a kind that is empty counts as one that cannot be read, and leaves them open (`synthesizeAll_closed`). -/
namespace IngressPlane

variable {r : AnnotationReader} {store : Store} {owner : ObjectMeta} {α β : Type}

/-- Whether a reading gives something with `P`, or else denies access. -/
def GivesOrDenies (P : α → Prop) : Except ReadFailure α → Prop
  | .ok a => P a
  | .error failure => ∃ reason, failure = .denied reason

namespace GivesOrDenies

variable {P : α → Prop} {Q : β → Prop} {reading : Except ReadFailure α}

theorem bind (h : GivesOrDenies P reading) {next : α → Except ReadFailure β}
    (hnext : ∀ a, P a → GivesOrDenies Q (next a)) : GivesOrDenies Q (reading >>= next) := by
  cases reading with
  | ok a => exact hnext a h
  | error failure => exact h

theorem mapError {ε : Type} (x : Except ε α) {f : ε → ReadFailure}
    (hf : ∀ e, ∃ reason, f e = .denied reason) : GivesOrDenies (fun _ => True) (x.mapError f) := by
  cases x with
  | ok a => trivial
  | error e => exact hf e

end GivesOrDenies

namespace Authentication

theorem contentsOf_givesOrDenies (secret : Secret) (secretKind : String) :
    GivesOrDenies (fun _ => True) (contentsOf secret secretKind) := by
  unfold contentsOf fileContents
  split
  · split
    · trivial
    · exact ⟨_, rfl⟩
  · split
    · trivial
    · exact ⟨_, rfl⟩

theorem read_of_kind {kind : String} (h : r.string "auth-type" = .ok kind) :
    GivesOrDenies (fun auth => auth.secured = true) (read r owner store) := by
  have hkind : GivesOrDenies (fun _ => True) (r.string "auth-type") := by
    rw [h]
    trivial
  unfold read
  refine hkind.bind fun kind _ => ?_
  dsimp only
  split
  · exact ⟨_, rfl⟩
  · refine (GivesOrDenies.mapError _ fun e => ⟨_, rfl⟩).bind fun reference _ => ?_
    split
    · refine (GivesOrDenies.mapError _ fun e => ⟨_, rfl⟩).bind fun secret _ => ?_
      exact (contentsOf_givesOrDenies _ _).bind fun contents _ => rfl
    · exact ⟨_, rfl⟩

theorem read_of_no_kind {failure : ReadFailure} (h : r.string "auth-type" = .error failure) :
    read r owner store = .error failure := by
  unfold read
  rw [h]
  rfl

end Authentication

/-- An ingress is closed, by authentication or by refusal, exactly if it names a kind of authentication. -/
theorem Policy.closed_extract (store : Store) (owner : ObjectMeta) :
    ((extract store owner).auth.secured = true ∨ (extract store owner).denied.isSome) ↔
      ∃ kind, owner.annotations.bind (·.get? (store.options.annotationPrefix ++ "/auth-type")) = some kind ∧
        kind ≠ "" := by
  let r : AnnotationReader := ⟨store.options.annotationPrefix, owner.annotations⟩
  have hauth : (extract store owner).auth = orDefault {} (Authentication.read r owner store) := rfl
  have hdenied : (extract store owner).denied = denial? (Authentication.read r owner store) := rfl
  have hkey : r.key "auth-type" = store.options.annotationPrefix ++ "/auth-type" :=
    String.append_assoc
  have hkind (kind : String) : r.string "auth-type" = .ok kind ↔
      owner.annotations.bind (·.get? (store.options.annotationPrefix ++ "/auth-type")) = some kind ∧
        kind ≠ "" := by
    rw [AnnotationReader.string_eq_ok, hkey]
  simp only [← hkind, hauth, hdenied]
  cases hread : r.string "auth-type" with
  | ok kind =>
    simp only [Except.ok.injEq, exists_eq', iff_true]
    have hclosed : GivesOrDenies (fun auth : Authentication => auth.secured = true)
        (Authentication.read r owner store) := Authentication.read_of_kind hread
    cases hresult : Authentication.read r owner store with
    | ok auth =>
      rw [hresult] at hclosed
      exact .inl hclosed
    | error failure =>
      rw [hresult] at hclosed
      obtain ⟨reason, rfl⟩ := hclosed
      exact .inr rfl
  | error failure =>
    rw [Authentication.read_of_no_kind hread]
    simp only [reduceCtorEq, exists_false, iff_false, not_or]
    refine ⟨by simp [orDefault, Except.toOption], ?_⟩
    cases failure with
    | denied reason => exact (r.string_ne_denied "auth-type" reason hread).elim
    | _ => simp [denial?]

/-- Whatever an ingress says of its authentication, all its locations are closed, by authentication or by
refusal, exactly if it names a kind. -/
theorem synthesizeAll_closed (hfiled : store.Filed) (now : Instant) (defaultService : Option String)
    {i : Ingress} (hi : i ∈ store.ingresses.values) {l : Location}
    (hl : l ∈ (store.synthesizeAll now defaultService).configuration.locations) {owner : Owner}
    (howner : l.owner = some owner) (hsame : owner.isSame (store.routed i).owner) :
    (l.policy.auth.secured = true ∨ l.policy.denied.isSome) ↔
      ∃ kind, i.metadata.annotations.bind (·.get? (store.options.annotationPrefix ++ "/auth-type")) =
        some kind ∧ kind ≠ "" := by
  obtain ⟨counted, hcounted, hcountedOwner, hpolicy⟩ := Store.exists_owner hl howner
  rw [primaries_admissible] at hcounted
  obtain ⟨r, hr, rfl⟩ := List.mem_map.1 hcounted
  obtain ⟨j, hj, rfl⟩ := Store.mem_listing.1 (mem_primaries.1 hr).1
  -- the owner is a stored ingress of the same namespace and name, so it is the given one
  obtain rfl : j = i := by
    rw [RoutedIngress.counted_owner] at hcountedOwner
    rw [← hcountedOwner, Owner.isSame, Bool.and_eq_true, decide_eq_true_iff, decide_eq_true_iff] at hsame
    exact hfiled.unique hj hi hsame.1 hsame.2
  rw [hpolicy.auth, hpolicy.denied, RoutedIngress.counted_auth, RoutedIngress.counted_denied]
  exact Policy.closed_extract store j.metadata

def guardedIngress (kind : String) : Ingress :=
  { metadata := {
      annotations := some (Table.empty.insert "nginx.ingress.kubernetes.io/auth-type" kind)
      scope := some "ns"
      name := some "site" }
    spec := { rules := some [{ host := some "a.com" }] } }

/-- The location of an ingress that names no secret is closed. -/
theorem synthesizeAll_closed_of_basic :
    let store := Store.holding (guardedIngress "basic")
    let owner := (store.routed (guardedIngress "basic")).owner
    ∃ l ∈ (store.synthesizeAll ⟨0, 0⟩ none).configuration.locations, l.owner = some owner ∧
      (l.policy.auth.secured = true ∨ l.policy.denied.isSome) := by
  intro store owner
  have hfiled : store.Filed := Table.Named.empty.insert rfl
  have hstored : guardedIngress "basic" ∈ store.ingresses.values := List.mem_singleton_self _
  have howned : ∃ l ∈ (store.synthesizeAll ⟨0, 0⟩ none).configuration.locations,
      l.owner = some owner := by decide +kernel
  obtain ⟨l, hl, howner⟩ := howned
  refine ⟨l, hl, howner, (synthesizeAll_closed hfiled ⟨0, 0⟩ none hstored hl howner ?_).2 ?_⟩
  · decide +kernel
  · exact ⟨"basic", by decide +kernel, by decide⟩

end IngressPlane
