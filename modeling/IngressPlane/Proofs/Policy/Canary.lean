import IngressPlane.Policy.Extract
import IngressPlane.Proofs.Policy.Reader

/-! Whether an ingress has said that it is a canary, or that it is none. A yes is known whatever else is said. But a
canary that is configured without being enabled is dropped together with what was said, so an ingress that says no
and chooses requests for a canary is taken for one that has said nothing (`Policy.extract_canary`). -/
namespace IngressPlane

def ObjectMeta.annotation? (m : ObjectMeta) (root name : String) : Option String :=
  m.annotations.bind (·.get? (root ++ "/" ++ name))

def trueSpellings : List String := ["1", "t", "T", "true", "TRUE", "True"]

/-- The annotations that choose requests for a canary by what they carry. -/
def canaryMatchNames : List String :=
  ["canary-by-header", "canary-by-header-value", "canary-by-header-pattern", "canary-by-cookie"]

/-- Whether annotations choose requests for a canary: a part of all of them, or those with a header or cookie. -/
def ObjectMeta.ConfiguresCanary (m : ObjectMeta) (root : String) : Prop :=
  (∃ text weight, m.annotation? root "canary-weight" = some text ∧ Text.int32? text = some weight ∧ 0 < weight) ∨
    ∃ name ∈ canaryMatchNames, ∃ text, m.annotation? root name = some text ∧ text ≠ ""

theorem boolean?_eq_some_true_iff {text : String} : boolean? text = some true ↔ text ∈ trueSpellings := by
  simp only [boolean?, trueSpellings, List.contains_iff_mem]
  split <;> simp_all

namespace CanaryPolicy

variable {m : ObjectMeta} {root : String}

theorem declaredBy_eq (m : ObjectMeta) (root : String) :
    declaredBy ⟨root, m.annotations⟩ =
      (m.annotation? root "canary").map fun text => decide (text ∈ trueSpellings) := by
  let r : AnnotationReader := ⟨root, m.annotations⟩
  unfold declaredBy AnnotationReader.bool AnnotationReader.readAs
  cases hthere : m.annotation? root "canary" with
  | none =>
    have hvalue : r.value "canary" = .error .missing := AnnotationReader.value_of_none hthere
    rw [hvalue]
    rfl
  | some text =>
    have hvalue : r.value "canary" = .ok text := AnnotationReader.value_of_some hthere
    rw [hvalue]
    simp only [Option.map_some, ← boolean?_eq_some_true_iff]
    cases boolean? text with
    | none => rfl
    | some told => cases told <;> rfl

theorem isConfigured_iff {c : CanaryPolicy} : c.isConfigured ↔
    0 < c.weight ∨ c.header ≠ "" ∨ c.headerValue ≠ "" ∨ c.headerPattern ≠ "" ∨ c.cookie ≠ "" := by
  simp only [isConfigured, Bool.or_eq_true, decide_eq_true_iff, or_assoc]

theorem configuresCanary_iff {r : AnnotationReader} (hr : r = ⟨root, m.annotations⟩) :
    m.ConfiguresCanary root ↔ 0 < r.intOr "canary-weight" 0 ∨ r.stringOr "canary-by-header" "" ≠ "" ∨
      r.stringOr "canary-by-header-value" "" ≠ "" ∨ r.stringOr "canary-by-header-pattern" "" ≠ "" ∨
      r.stringOr "canary-by-cookie" "" ≠ "" := by
  subst hr
  simp only [ObjectMeta.ConfiguresCanary, canaryMatchNames, AnnotationReader.intOr_pos,
    AnnotationReader.stringOr_ne_empty, List.mem_cons, List.not_mem_nil, or_false, exists_eq_or_imp, exists_eq_left]
  rfl

/-- A policy that is configured without being enabled is dropped. -/
theorem read_cases {r : AnnotationReader} (hr : r = ⟨root, m.annotations⟩) :
    (declaredBy r ≠ some true ∧ m.ConfiguresCanary root ∧ Policy.orDefault {} (read r) = {}) ∨
      ((declaredBy r = some true ∨ ¬ m.ConfiguresCanary root) ∧
        (Policy.orDefault {} (read r)).declared = declaredBy r ∧
        (Policy.orDefault {} (read r)).enabled = (declaredBy r).getD false) := by
  rw [configuresCanary_iff hr]
  unfold read
  simp only [Bool.and_eq_true, Bool.not_eq_true', isConfigured_iff]
  split
  next h =>
    refine .inl ⟨fun hdeclared => ?_, h.2, rfl⟩
    simp [hdeclared] at h
  next h =>
    refine .inr ⟨?_, rfl, rfl⟩
    by_cases hdeclared : declaredBy r = some true
    · exact .inl hdeclared
    · refine .inr fun hconfigured => h ⟨?_, hconfigured⟩
      cases hsaid : declaredBy r with
      | none => rfl
      | some told => cases told <;> simp_all

end CanaryPolicy

/-- An ingress is known as a canary exactly if its annotation says so, in one of the true spellings. Anything else
that it says is known as a no, but only as long as it chooses no requests for a canary: then it is taken to have said
nothing, like an ingress without the annotation. -/
theorem Policy.extract_canary (store : Store) (owner : ObjectMeta) :
    let root := store.options.annotationPrefix
    let canary := (extract store owner).canary
    (canary.declared = some true ↔ ∃ text ∈ trueSpellings, owner.annotation? root "canary" = some text) ∧
    (canary.declared = some false ↔
      (∃ text ∉ trueSpellings, owner.annotation? root "canary" = some text) ∧ ¬ owner.ConfiguresCanary root) ∧
    (canary.declared = none ↔ owner.annotation? root "canary" = none ∨
      (∃ text ∉ trueSpellings, owner.annotation? root "canary" = some text) ∧ owner.ConfiguresCanary root) ∧
    (canary.enabled = true ↔ canary.declared = some true) := by
  intro root canary
  let r : AnnotationReader := ⟨root, owner.annotations⟩
  have hcases : (_ ∧ _ ∧ canary = {}) ∨ (_ ∧ canary.declared = _ ∧ canary.enabled = _) :=
    CanaryPolicy.read_cases (r := r) rfl
  rw [CanaryPolicy.declaredBy_eq] at hcases
  cases hthere : owner.annotation? root "canary" with
  | none =>
    rw [hthere, Option.map_none] at hcases
    rcases hcases with ⟨_, _, hcanary⟩ | ⟨_, hdeclared, henabled⟩
    · simp [hcanary]
    · simp [hdeclared, henabled]
  | some text =>
    rw [hthere, Option.map_some] at hcases
    by_cases htrue : text ∈ trueSpellings
    · rcases hcases with ⟨hnot, _, _⟩ | ⟨_, hdeclared, henabled⟩
      · simp [htrue] at hnot
      · simp [hdeclared, henabled, htrue]
    · rcases hcases with ⟨_, hconfigured, hcanary⟩ | ⟨hnot, hdeclared, henabled⟩
      · simp [hcanary, htrue, hconfigured]
      · have hplain : ¬ owner.ConfiguresCanary root := by simpa [htrue] using hnot
        simp [hdeclared, henabled, htrue, hplain]

/-- A weight beside a no makes the no unknown: the annotation is there, and not known as a no. -/
theorem Policy.unknown_of_weighted_no :
    let owner : ObjectMeta := {
      annotations := some (.ofList [("nginx.ingress.kubernetes.io/canary", "false"),
        ("nginx.ingress.kubernetes.io/canary-weight", "50")]) }
    let canary := (extract (.withOptions {}) owner).canary
    owner.annotation? defaultAnnotationPrefix "canary" = some "false" ∧ "false" ∉ trueSpellings ∧
      canary.declared = none ∧ canary.declared ≠ some false := by
  decide +kernel

end IngressPlane
