import IngressPlane.Admission.Validator
import IngressPlane.Proofs.Files.Tree
import IngressPlane.Proofs.Synthesis.OwnPolicies

/-! What a rejected ingress leaves in the files. The screening and the overlap check touch none. Where the
rendering or the check fails, the password files of all tested ingresses are written by then, the candidate's
among them, so a file that the candidate shares with its stored version is overwritten (`validate_files`). -/
namespace IngressPlane

variable {v : Validator} {store : Store} {now : Instant} {files : FileTree} {candidate : Ingress}
  {e : AdmissionError} {prepared : Prepared} {defaultService : Option String} {resources : List RoutedIngress}
  {l : Location} {path : String} {contents : List UInt8}

theorem Configuration.exists_of_mem_passwordFiles {c : Configuration}
    (h : (path, contents) ∈ c.passwordFiles.entries) : ∃ l ∈ c.locations, l.policy.auth.secured = true ∧
      l.policy.auth.file = path ∧ l.policy.auth.contents = contents := by
  obtain ⟨l, hl, hentry⟩ := List.mem_map.1 (Table.mem_of_mem_ofList h)
  obtain ⟨hl, hkept⟩ := List.mem_filter.1 hl
  cases hentry
  exact ⟨l, hl, (Bool.and_eq_true_iff.1 hkept).1, rfl, rfl⟩

namespace Store

theorem synthesize_auth (hl : l ∈ (store.synthesize now defaultService resources).configuration.locations)
    (hsecured : l.policy.auth.secured = true) : ∃ r ∈ resources, r.policy.auth = l.policy.auth := by
  rcases policy_cases hl with hroot | ⟨counted, hcounted, hpolicy⟩
  · rw [hroot] at hsecured
    cases hsecured
  · rw [primaries_admissible] at hcounted
    obtain ⟨r, hr, rfl⟩ := List.mem_map.1 hcounted
    exact ⟨r, (mem_primaries.1 hr).1, (RoutedIngress.counted_auth ..).symm.trans hpolicy.auth.symm⟩

/-- The password files of a configuration are those of its ingresses. -/
theorem mem_passwordFiles
    (h : (path, contents) ∈
      (store.synthesize now defaultService resources).configuration.passwordFiles.entries) :
    ∃ r ∈ resources, r.policy.auth.secured = true ∧ r.policy.auth.file = path ∧
      r.policy.auth.contents = contents := by
  obtain ⟨l, hl, hsecured, rfl, rfl⟩ := Configuration.exists_of_mem_passwordFiles h
  obtain ⟨r, hr, hauth⟩ := synthesize_auth hl hsecured
  exact ⟨r, hr, by rw [hauth, hsecured], by rw [hauth], by rw [hauth]⟩

end Store

/-- How the files come out when the password files of a configuration have been written. -/
structure WrittenFor (files : FileTree) (c : Configuration) (resources : List RoutedIngress)
    (after : FileTree) : Prop where
  /-- A file holds what is written there, or else what it held before. -/
  read : ∀ path, after.read? path = (files.written? c.passwordFiles.entries path).or (files.read? path)
  /-- The files are all as before exactly if nothing is written but what is there. -/
  unchanged_iff : after = files ↔ ∀ path contents,
    files.written? c.passwordFiles.entries path = some contents → files.read? path = some contents
  /-- What is written is the password file of an ingress. -/
  origin : ∀ path contents, files.written? c.passwordFiles.entries path = some contents →
    ∃ r ∈ resources, r.policy.auth.secured = true ∧ files.place? r.policy.auth.file = files.place? path ∧
      r.policy.auth.contents = contents

theorem writtenFor_writeAll (store : Store) (now : Instant) (defaultService : Option String)
    (resources : List RoutedIngress) (files : FileTree) :
    let c := (store.synthesize now defaultService resources).configuration
    WrittenFor files c resources (files.writeAll c.passwordFiles.entries).1 where
  read := FileTree.read?_writeAll
  unchanged_iff := FileTree.writeAll_eq_self_iff
  origin path contents hwritten := by
    obtain ⟨other, hentry, hplace⟩ := FileTree.written?_eq_some hwritten
    obtain ⟨r, hr, hsecured, rfl, hcontents⟩ := Store.mem_passwordFiles hentry
    exact ⟨r, hr, hsecured, hplace, hcontents⟩

theorem WrittenFor.mono {c : Configuration} {after : FileTree} {others : List RoutedIngress}
    (h : WrittenFor files c resources after) (hsub : resources ⊆ others) : WrittenFor files c others after where
  read := h.read
  unchanged_iff := h.unchanged_iff
  origin path contents hwritten := by
    obtain ⟨r, hr, horigin⟩ := h.origin path contents hwritten
    exact ⟨r, hsub hr, horigin⟩

namespace Validator

theorem prepare_error (h : v.prepare store now candidate = .error e) :
    (∃ violation, e = .rejected violation) ∨ ∃ found, e = .conflict found := by
  unfold prepare at h
  split at h
  next violation _ =>
    cases h
    exact .inl ⟨violation, rfl⟩
  next =>
    dsimp only at h
    split at h
    next found _ =>
      cases h
      exact .inr ⟨found, rfl⟩
    next => split at h <;> cases h

theorem prepare_resources (h : v.prepare store now candidate = .ok prepared) :
    ∃ resources ⊆ store.listingWith (store.routed candidate.setDefaultPathType),
      prepared.configuration = (store.synthesize now v.defaultService resources).configuration := by
  unfold prepare at h
  split at h
  · cases h
  · dsimp only at h
    split at h
    · cases h
    · split at h
      · exact ⟨_, List.subset_append_right _ _, (congrArg Prepared.configuration (Except.ok.inj h)).symm⟩
      · exact ⟨_, List.Subset.refl _, (congrArg Prepared.configuration (Except.ok.inj h)).symm⟩

/-- A probe writes the password files before it can fail. -/
theorem probe_spec (v : Validator) (settings : Settings) (files : FileTree) (p : Prepared) :
    (v.probe settings files p).files = (files.writeAll p.configuration.passwordFiles.entries).1 ∧
      ∀ e, (v.probe settings files p).verdict = .error e →
        (∃ error, e = .render error) ∨ ∃ failure, e = .check failure := by
  unfold probe
  split
  next written path hrun =>
    rw [hrun]
    exact ⟨rfl, fun e he => .inl ⟨_, (Except.error.inj he).symm⟩⟩
  next written hrun =>
    rw [hrun]
    split
    · exact ⟨rfl, fun e he => .inl ⟨_, (Except.error.inj he).symm⟩⟩
    · refine ⟨rfl, fun e he => ?_⟩
      dsimp only at he
      split at he
      · exact .inr ⟨_, (Except.error.inj he).symm⟩
      · cases he

theorem validate_cases (h : (v.validate store now files candidate).verdict = .error e) :
    v.prepare store now candidate = .error e ∧ (v.validate store now files candidate).files = files ∨
      ∃ prepared, v.prepare store now candidate = .ok prepared ∧
        v.validate store now files candidate = v.probe store.settings files prepared := by
  unfold validate at h ⊢
  split at h
  · cases h
  · split at h
    next hprepare =>
      cases h
      exact .inl ⟨hprepare, by simp [*]⟩
    next prepared hprepare => exact .inr ⟨prepared, hprepare, by simp [*]⟩

end Validator
end IngressPlane
