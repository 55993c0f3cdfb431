import IngressPlane.Policy.Reader

/-! What is read of an annotation, in terms of what it says. An empty text counts as none. -/
namespace IngressPlane.AnnotationReader

variable {r : AnnotationReader} {name text : String}

theorem value_of_none (h : r.annotations.bind (·.get? (r.key name)) = none) : r.value name = .error .missing := by
  rw [value, h]

theorem value_of_some (h : r.annotations.bind (·.get? (r.key name)) = some text) : r.value name = .ok text := by
  rw [value, h]

theorem value_eq_ok : r.value name = .ok text ↔ r.annotations.bind (·.get? (r.key name)) = some text := by
  unfold value
  cases r.annotations.bind (·.get? (r.key name)) <;> simp

theorem string_eq_ok {value : String} :
    r.string name = .ok value ↔ r.annotations.bind (·.get? (r.key name)) = some value ∧ value ≠ "" := by
  unfold string AnnotationReader.value
  cases r.annotations.bind (·.get? (r.key name)) with
  | none => simp
  | some v =>
    by_cases h : v = ""
    · simp only [h, if_true, reduceCtorEq, Option.some.injEq, false_iff, not_and, Decidable.not_not]
      exact Eq.symm
    · simp only [h, if_false, Except.ok.injEq, Option.some.injEq, iff_self_and]
      rintro rfl
      exact h

theorem list_eq_ok {items : List String} :
    r.list name = .ok items ↔ ∃ text, r.string name = .ok text ∧ Text.listItems text = items := by
  unfold list
  cases r.string name with
  | ok text => exact ⟨fun h => ⟨text, rfl, Except.ok.inj h⟩, fun ⟨_, htext, h⟩ => Except.ok.inj htext ▸ congrArg Except.ok h⟩
  | error e => exact ⟨nofun, nofun⟩

theorem string_ne_denied (name reason : String) : r.string name ≠ .error (.denied reason) := by
  unfold string AnnotationReader.value
  cases r.annotations.bind (·.get? (r.key name)) with
  | none => simp
  | some v => by_cases h : v = "" <;> simp [h]

theorem stringOr_ne_empty : r.stringOr name "" ≠ "" ↔
    ∃ text, r.annotations.bind (·.get? (r.key name)) = some text ∧ text ≠ "" := by
  simp only [← string_eq_ok, stringOr]
  cases h : r.string name with
  | ok text => simpa [Except.toOption] using (string_eq_ok.1 h).2
  | error failure => simp [Except.toOption]

theorem readAs_eq_ok {α : Type} {read : String → Option α} {a : α} :
    r.readAs read name = .ok a ↔
      ∃ text, r.annotations.bind (·.get? (r.key name)) = some text ∧ read text = some a := by
  unfold readAs AnnotationReader.value
  cases r.annotations.bind (·.get? (r.key name)) with
  | none => simp
  | some text => cases h : read text <;> simp [h]

theorem intOr_pos : 0 < r.intOr name 0 ↔
    ∃ text n, r.annotations.bind (·.get? (r.key name)) = some text ∧ Text.int32? text = some n ∧ 0 < n := by
  have hint : 0 < r.intOr name 0 ↔ ∃ n, r.int name = .ok n ∧ 0 < n := by
    rw [intOr]
    cases r.int name <;> simp [Except.toOption]
  simp only [hint, int, readAs_eq_ok]
  exact ⟨fun ⟨n, ⟨text, hthere, hread⟩, hpos⟩ => ⟨text, n, hthere, hread, hpos⟩,
    fun ⟨text, n, hthere, hread, hpos⟩ => ⟨n, ⟨text, hthere, hread⟩, hpos⟩⟩

end IngressPlane.AnnotationReader
