import IngressPlane.Admission.Screening
import IngressPlane.Proofs.Policy.Reader
import IngressPlane.Proofs.Tables
import IngressPlane.Proofs.Text.Items

/-! Which ingresses pass the screening: those of which nothing can be said that is forbidden
(`violation?_eq_none_iff`). Each rule looks at the keys in its own way, but all that is ever read from annotations
stands under the root, where no blocked word passes. -/
namespace IngressPlane

open Text

/-- The words of the blocklist: what trimming leaves between its commas, unless that is nothing. -/
def Settings.Blocks (settings : Settings) (word : String) : Prop :=
  word ≠ "" ∧ ∃ piece ∈ split ',' settings.wordBlocklist, trim piece = word

theorem Settings.mem_blockedWords {settings : Settings} {word : String} :
    word ∈ settings.blockedWords ↔ settings.Blocks word := by
  rw [blockedWords, listItems_trim, mem_listItems, Blocks]

namespace Screening

variable {s : Screening} {ingress : Ingress} {key value word name : String}

structure Allows (s : Screening) (key value : String) : Prop where
  root : s.root ≠ defaultAnnotationPrefix → ∀ name, key ≠ defaultAnnotationPrefix ++ "/" ++ name
  words : ∀ name, key = s.root ++ "/" ++ name → ∀ word, s.settings.Blocks word → ¬ OccursIn word value
  snippets : s.settings.allowSnippets = false → ∀ stem, key ≠ stem ++ "-snippet"
  rateLimits : s.settings.rateLimitHost = "" → ∀ rest, key ≠ s.root ++ "/global-rate-limit" ++ rest

structure Admits (s : Screening) (ingress : Ingress) : Prop where
  defaultBackend : s.catchAllDisabled → ingress.spec.defaultBackend = none
  annotations : ∀ annotations, ingress.metadata.annotations = some annotations →
    ∀ key value, annotations.get? key = some value → s.Allows key value

theorem usesStandardRoot_eq_false_iff : s.usesStandardRoot key = false ↔
    (s.root ≠ defaultAnnotationPrefix → ∀ name, key ≠ defaultAnnotationPrefix ++ "/" ++ name) := by
  rw [← Bool.not_eq_true, usesStandardRoot, Bool.and_eq_true, decide_eq_true_iff, hasPrefix_iff, not_and,
    not_exists]

theorem isSnippet_eq_false_iff : isSnippet key = false ↔ ∀ stem, key ≠ stem ++ "-snippet" := by
  rw [← Bool.not_eq_true, isSnippet, hasSuffix_iff, not_exists]

theorem limitsRate_eq_false_iff :
    s.limitsRate key = false ↔ ∀ rest, key ≠ s.root ++ "/global-rate-limit" ++ rest := by
  rw [← Bool.not_eq_true, limitsRate, hasPrefix_iff, not_exists]

theorem blockedWord?_eq_none_iff :
    s.blockedWord? value = none ↔ ∀ word, s.settings.Blocks word → ¬ OccursIn word value := by
  simp only [blockedWord?, List.find?_eq_none, Settings.mem_blockedWords, contains_iff]

theorem annotation?_eq_none_iff : s.annotation? key value = none ↔
    s.usesStandardRoot key = false ∧ (s.isRead key → s.blockedWord? value = none) ∧
      (s.settings.allowSnippets = false → isSnippet key = false) ∧
      (s.settings.rateLimitHost = "" → s.limitsRate key = false) := by
  unfold annotation?
  cases s.usesStandardRoot key with
  | true => simp
  | false =>
    -- only a key that is read brings its value to the blocklist
    cases s.isRead key with
    | false => cases s.settings.allowSnippets <;> cases isSnippet key <;> simp
    | true =>
      cases s.blockedWord? value with
      | some word => simp
      | none => cases s.settings.allowSnippets <;> cases isSnippet key <;> simp

theorem annotation?_eq_none_iff_allows : s.annotation? key value = none ↔ s.Allows key value := by
  rw [annotation?_eq_none_iff, usesStandardRoot_eq_false_iff, blockedWord?_eq_none_iff, isRead, hasPrefix_iff,
    forall_exists_index, isSnippet_eq_false_iff, limitsRate_eq_false_iff]
  exact ⟨fun ⟨hroot, hwords, hsnippets, hrates⟩ => ⟨hroot, hwords, hsnippets, hrates⟩,
    fun h => ⟨h.root, h.words, h.snippets, h.rateLimits⟩⟩

theorem violation?_eq_none_iff_admits : s.violation? ingress = none ↔ s.Admits ingress := by
  have hannotations : (((ingress.metadata.annotations.map Table.entries).getD []).findSome? fun entry =>
      s.annotation? entry.1 entry.2) = none ↔
      ∀ annotations, ingress.metadata.annotations = some annotations →
        ∀ key value, annotations.get? key = some value → s.Allows key value := by
    rw [List.findSome?_eq_none_iff]
    cases ingress.metadata.annotations with
    | none => simp
    | some annotations =>
      simp only [Option.map_some, Option.getD_some, Prod.forall, Option.some.injEq, forall_eq',
        Table.get?_eq_some_iff, annotation?_eq_none_iff_allows]
  unfold violation?
  split
  next hcatchAll =>
    obtain ⟨hdisabled, hbackend⟩ := Bool.and_eq_true_iff.1 hcatchAll
    refine ⟨nofun, fun h => ?_⟩
    rw [h.defaultBackend hdisabled] at hbackend
    cases hbackend
  next hcatchAll =>
    rw [hannotations]
    refine ⟨fun h => ⟨fun hdisabled => ?_, h⟩, fun h => h.annotations⟩
    simpa [hdisabled] using hcatchAll

theorem Admits.not_occursIn (h : s.Admits ingress) (hword : s.settings.Blocks word)
    (hvalue : (⟨s.root, ingress.metadata.annotations⟩ : AnnotationReader).value name = .ok value) :
    ¬ OccursIn word value := by
  obtain ⟨annotations, hannotations, hget⟩ := Option.bind_eq_some_iff.1 (AnnotationReader.value_eq_ok.1 hvalue)
  exact (h.annotations annotations hannotations _ _ hget).words name rfl word hword

/-- Screening finds no violation exactly if the ingress has no default backend where those are disabled, and each
of its annotations is one that is allowed. Then no text that can be read under the root, nor any item of a list
that can be read there, has a blocked word in it. -/
theorem violation?_eq_none_iff (s : Screening) (ingress : Ingress) :
    let r : AnnotationReader := ⟨s.root, ingress.metadata.annotations⟩
    (s.violation? ingress = none ↔ s.Admits ingress) ∧
    (s.violation? ingress = none → ∀ word, s.settings.Blocks word → ∀ name,
      (∀ text, r.value name = .ok text → ¬ OccursIn word text) ∧
      (∀ text, r.string name = .ok text → ¬ OccursIn word text) ∧
      ∀ items, r.list name = .ok items → ∀ item ∈ items, ¬ OccursIn word item) := by
  intro r
  refine ⟨violation?_eq_none_iff_admits, fun hnone word hword name => ?_⟩
  have hadmits : s.Admits ingress := violation?_eq_none_iff_admits.1 hnone
  have hvalue (text : String) (htext : r.value name = .ok text) : ¬ OccursIn word text :=
    hadmits.not_occursIn hword htext
  have hstring (text : String) (htext : r.string name = .ok text) : ¬ OccursIn word text :=
    hvalue text (AnnotationReader.value_eq_ok.2 (AnnotationReader.string_eq_ok.1 htext).1)
  refine ⟨hvalue, hstring, fun items hitems item hitem hoccurs => ?_⟩
  obtain ⟨text, htext, rfl⟩ := AnnotationReader.list_eq_ok.1 hitems
  exact hstring text htext (hoccurs.trans (occursIn_of_mem_listItems hitem))

/-- A blocked word in an annotation that is not read does no harm. -/
theorem violation?_eq_none_iff_of_foreign :
    let s : Screening := { settings := { wordBlocklist := " load_module, ,lua_package " } }
    let annotations := Table.ofList [("nginx.ingress.kubernetes.io/server-alias", "a.com, b.com"),
      ("other.io/notes", "lua_package")]
    let ingress : Ingress := { metadata := { annotations := some annotations } }
    let r : AnnotationReader := ⟨s.root, some annotations⟩
    s.violation? ingress = none ∧ s.Admits ingress ∧ s.settings.Blocks "lua_package" ∧
      r.list "server-alias" = .ok ["a.com", "b.com"] ∧ ¬ OccursIn "lua_package" "b.com" := by
  intro s annotations ingress r
  have hnone : s.violation? ingress = none := by decide +kernel
  have hword : s.settings.Blocks "lua_package" := ⟨by decide, by decide +kernel⟩
  have hitems : r.list "server-alias" = .ok ["a.com", "b.com"] := by decide +kernel
  obtain ⟨hiff, hread⟩ := violation?_eq_none_iff s ingress
  refine ⟨hnone, hiff.1 hnone, hword, hitems, ?_⟩
  exact (hread hnone "lua_package" hword "server-alias").2.2 _ hitems "b.com" (by decide)

end Screening
end IngressPlane
