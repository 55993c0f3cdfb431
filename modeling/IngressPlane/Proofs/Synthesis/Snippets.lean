import IngressPlane.Proofs.Policy.Snippets
import IngressPlane.Proofs.Synthesis.Alike
import IngressPlane.Proofs.Synthesis.HostFields
import IngressPlane.Proofs.Synthesis.OwnPolicies

/-! Where the settings disallow snippets, nothing is configured from them, and stores that differ in the
annotations for them only have the same synthesis (`synthesizeAll_of_plain_eq`). -/
namespace IngressPlane

variable {store other : Store} {now : Instant} {defaultService : Option String} {resources : List RoutedIngress}
  {backends : Table Backend} {fallback : Backend}

def Ingress.plain (root : String) (i : Ingress) : Ingress := { i with metadata := i.metadata.plain root }

/-- Where snippets are disallowed, an ingress without the annotations for them counts as it does with them. -/
theorem alike_counted_plain (hoff : store.settings.allowSnippets = false) (i : Ingress) :
    ((store.routed (i.plain store.options.annotationPrefix)).counted store.settings).Alike
      ((store.routed i).counted store.settings) := by
  have hcounted (r : RoutedIngress) :
      r.counted store.settings = { r with policy := r.policy.withoutSnippets } := by
    rw [RoutedIngress.counted, hoff, if_neg Bool.false_ne_true]
  rw [hcounted, hcounted]
  exact {
    policy := Policy.extract_plain store i.metadata
    key := rfl
    scope := rfl
    anyName := rfl
    hostnames := rfl
    pathClaims := rfl
    defaultService := rfl
    tlsList := rfl }

namespace Store

def plain (store : Store) : Store :=
  { store with ingresses := store.ingresses.map (.plain store.options.annotationPrefix) }

theorem listing_plain (store : Store) : store.plain.listing =
    store.sorted.map fun i => store.routed (i.plain store.options.annotationPrefix) := by
  have hsorted : store.plain.sorted = store.sorted.map (.plain store.options.annotationPrefix) := by
    unfold sorted plain
    rw [Table.values_map,
      List.map_mergeSort (f := Ingress.plain _) (r := listedBefore) (s := listedBefore) fun a _ b _ => rfl]
  rw [listing_eq, hsorted, List.map_map]
  rfl

theorem synthesizeAll_plain (hoff : store.settings.allowSnippets = false) (now : Instant)
    (defaultService : Option String) :
    store.plain.synthesizeAll now defaultService = store.synthesizeAll now defaultService := by
  have hstore : store.plain.synthesizeAll now defaultService =
      store.synthesize now defaultService store.plain.listing := rfl
  rw [hstore, synthesizeAll, listing_plain, listing_eq]
  refine synthesize_alike_admissible store now defaultService ?_
  rw [admissible_eq, admissible_eq, List.map_map, List.map_map, List.forall₂_map_left_iff,
    List.forall₂_map_right_iff, List.forall₂_same]
  exact fun i _ => alike_counted_plain hoff i

end Store

section Absence

def RoutedIngress.IsPlain (r : RoutedIngress) : Prop := r.policy.withoutSnippets = r.policy

theorem isPlain_of_mem_admissible {settings : Settings} (hoff : settings.allowSnippets = false)
    (hr : r ∈ admissible settings resources) : r.IsPlain := by
  rw [admissible, hoff, if_neg Bool.false_ne_true, List.mem_map] at hr
  obtain ⟨r, _, rfl⟩ := hr
  rfl

variable (hplain : ∀ r ∈ resources, r.IsPlain)
include hplain

theorem streamSnippets_of_isPlain : streamSnippets resources = [] := by
  rw [streamSnippets, List.filter_eq_nil_iff]
  intro text htext
  obtain ⟨r, hr, rfl⟩ := List.mem_map.1 htext
  rw [← hplain r hr]
  exact of_decide_eq_true rfl

theorem snippet_buildHosts {v : VirtualHost} {host : String}
    (hv : (store.buildHosts now resources backends fallback).1.get? host = some v) : v.snippet = "" := by
  unfold Store.buildHosts at hv
  obtain ⟨w, hw, rfl⟩ := Option.map_eq_some_iff.1 ((Table.get?_map _ _ host).symm.trans hv)
  have hsettled : w.snippet = HostField.snippet.settled resources host := HostField.snippet.eq_settled hw
  refine hsettled.trans (firstSet_of_unset fun text htext => ?_)
  obtain ⟨r, hr, rfl⟩ := List.mem_map.1 htext
  rw [← hplain r (mem_primaries.1 (List.mem_filter.1 hr).1).1]
  rfl

end Absence

namespace Store

theorem synthesize_snippets (hoff : store.settings.allowSnippets = false) (now : Instant)
    (defaultService : Option String) (resources : List RoutedIngress) :
    let c := (store.synthesize now defaultService resources).configuration
    (∀ v ∈ c.hosts, v.snippet = "" ∧ ∀ l ∈ v.locations, l.policy.configurationSnippet = "") ∧
      c.streamSnippets = [] := by
  have hplain : ∀ r ∈ admissible store.settings resources, r.IsPlain := fun _ => isPlain_of_mem_admissible hoff
  refine ⟨fun v hv => ⟨?_, fun l hl => ?_⟩, streamSnippets_of_isPlain hplain⟩
  · obtain ⟨host, hget⟩ := Table.mem_values.1 hv
    obtain ⟨w, hw, hshell⟩ := Table.get?_of_map_eq (store.arranged_shell now defaultService _) hget
    have hbuilt : w.snippet = "" := snippet_buildHosts hplain hw
    rw [← v.shell_snippet, ← hshell, w.shell_snippet, hbuilt]
  · rcases policy_cases (List.mem_flatMap.2 ⟨v, hv, hl⟩) with hroot | ⟨r, hr, hpolicy⟩
    · rw [hroot]
      rfl
    · rw [hpolicy.configurationSnippet, ← hplain r (mem_primaries.1 hr).1]
      rfl

/-- Where snippets are disallowed they have no influence: the synthesis of stores that differ only in the
annotations for them is the same, and holds none. -/
theorem synthesizeAll_of_plain_eq (hoff : store.settings.allowSnippets = false) (hsame : store.plain = other.plain)
    (now : Instant) (defaultService : Option String) :
    let s := store.synthesizeAll now defaultService
    s = other.synthesizeAll now defaultService ∧
      (∀ v ∈ s.configuration.hosts, v.snippet = "" ∧ ∀ l ∈ v.locations, l.policy.configurationSnippet = "") ∧
      s.configuration.streamSnippets = [] := by
  have hsettings : other.settings = store.settings := congrArg (·.settings) hsame.symm
  refine ⟨?_, synthesize_snippets hoff now defaultService store.listing⟩
  rw [← synthesizeAll_plain hoff, hsame, synthesizeAll_plain (hsettings ▸ hoff)]

/-- A host whose only ingress has a snippet for it, or none, and snippets are disallowed. -/
theorem synthesizeAll_of_plain_eq_of_two :
    let bare := rootIngress "ns" "site" "a.com" "web"
    let marked := annotated bare "server-snippet" "# mine"
    let guarded (i : Ingress) : Store := { holding i with options := { settings := { allowSnippets := false } } }
    ((holding marked).synthesizeAll ⟨0, 0⟩ none).configuration.hosts.map (·.snippet) = ["", "# mine"] ∧
      (guarded marked).synthesizeAll ⟨0, 0⟩ none = (guarded bare).synthesizeAll ⟨0, 0⟩ none ∧
      ((guarded marked).synthesizeAll ⟨0, 0⟩ none).configuration.hosts.map (·.snippet) = ["", ""] := by
  intro bare marked guarded
  have hingresses : (guarded marked).plain.ingresses = (guarded bare).plain.ingresses := by decide +kernel
  have hsame : (guarded marked).plain = (guarded bare).plain :=
    congrArg (fun ingresses => { (guarded bare).plain with ingresses }) hingresses
  exact ⟨by decide +kernel, (synthesizeAll_of_plain_eq rfl hsame ⟨0, 0⟩ none).1, by decide +kernel⟩

end Store
end IngressPlane
