import IngressPlane.Proofs.Synthesis.ExpandedKeys
import IngressPlane.Proofs.Texts
import Mathlib.Data.List.MinMax

/-! Which location serves a request: the exact one on its path, and else the longest prefix that matches.
Expanded prefixes match by their texts alone and serve what the locations before expansion are for: their own
path and all that lies below it (`selected?_expandPrefixes`). Some prefixes are left as they are
(`Location.IsLeftAlone`), and take whatever begins with their path. -/
namespace IngressPlane

open Text

variable {keys : List (String × PathType)} {path : String} {isFor : Location → Bool}
  {l l' e : Location} {ls : List Location}

namespace Location

def begins (path : String) (l : Location) : Bool := hasPrefix l.path path

/-- Why a prefix is left as it is among locations with these keys. -/
inductive IsLeftAlone (keys : List (String × PathType)) (l : Location) : Prop
  | root (hpath : l.path = "/")
  | mapped (htarget : l.policy.mapping.target ≠ "") (hother : l.policy.mapping.target ≠ l.path)
  | regex (hregex : l.policy.mapping.useRegex = true)
  /-- Another prefix has its path with a slash at the end. -/
  | taken (hopen : ∀ stem, l.path ≠ stem ++ "/") (hkey : (l.path ++ "/", .under) ∈ keys)

theorem isLeftAlone_iff : l.IsLeftAlone keys ↔ l.path = rootPath ∨ l.isMapped = true ∨
    l.policy.mapping.useRegex = true ∨ slashEnded l.path ≠ l.path ∧ (slashEnded l.path, .under) ∈ keys := by
  have hmapped : l.isMapped = true ↔ l.policy.mapping.target ≠ "" ∧ l.policy.mapping.target ≠ l.path := by
    simp [isMapped]
  have htaken : slashEnded l.path ≠ l.path ∧ (slashEnded l.path, .under) ∈ keys ↔
      (∀ stem, l.path ≠ stem ++ "/") ∧ (l.path ++ "/", .under) ∈ keys := by
    have hopen : slashEnded l.path ≠ l.path ↔ ∀ stem, l.path ≠ stem ++ "/" := by
      rw [← not_exists, ← hasSuffix_iff, slashEnded]
      split <;> simp [*]
    exact and_congr_left' hopen |>.trans (and_congr_right fun h => by rw [slashEnded_of_ne (hopen.2 h)])
  rw [hmapped, htaken]
  constructor
  · rintro (h | ⟨htarget, hother⟩ | h | ⟨hopen, hkey⟩)
    · exact .inl h
    · exact .inr (.inl ⟨htarget, hother⟩)
    · exact .inr (.inr (.inl h))
    · exact .inr (.inr (.inr ⟨hopen, hkey⟩))
  · rintro (h | ⟨htarget, hother⟩ | h | ⟨hopen, hkey⟩)
    · exact .root h
    · exact .mapped htarget hother
    · exact .regex h
    · exact .taken hopen hkey

instance : Decidable (l.IsLeftAlone keys) := decidable_of_iff _ isLeftAlone_iff.symm

def isExpanded (keys : List (String × PathType)) (l : Location) : Bool :=
  l.pathType = .under && !decide (l.IsLeftAlone keys)

/-- Expansion leaves prefixes alone for these reasons and no others. -/
theorem isExpanded_eq (keys : List (String × PathType)) (l : Location) :
    l.isExpanded keys = (l.path ≠ rootPath && !l.isLeftAs keys) := by
  rw [Bool.eq_iff_iff, isExpanded, isLeftAs]
  simp only [isLeftAlone_iff, Bool.and_eq_true, Bool.not_eq_true', decide_eq_true_eq, decide_eq_false_iff_not,
    Bool.or_eq_false_iff, Bool.and_eq_false_imp, List.contains_eq_mem, not_or, not_and, ne_eq,
    Decidable.not_not, Bool.not_eq_true]
  grind

/-- Whether a request path is that of a location or lies below it. A location that is not expanded takes
whatever begins with its path. -/
def covers (keys : List (String × PathType)) (path : String) (l : Location) : Bool :=
  if l.isExpanded keys then l.path = path || hasPrefix (slashEnded l.path) path else l.begins path

def prefixPath (keys : List (String × PathType)) (l : Location) : String :=
  if l.isExpanded keys then slashEnded l.path else l.path

end Location

def selected? (path : String) (isFor : Location → Bool) (ls : List Location) : Option Location :=
  (ls.find? (·.key = (path, .exact))).or
    ((ls.filter fun l => l.pathType = .under && isFor l).argmax (·.path.utf8ByteSize))

/-- Why a location serves a request rather than the others. -/
inductive Serves (path : String) (isFor : Location → Bool) (ls : List Location) (l : Location) : Prop
  | exact (hkey : l.key = (path, .exact))
  | longest (hfree : (path, .exact) ∉ ls.map Location.key) (htype : l.pathType = .under) (hfor : isFor l)
      (hlongest : ∀ l' ∈ ls, l'.pathType = .under → isFor l' →
        l'.path.utf8ByteSize ≤ l.path.utf8ByteSize)

theorem find?_key_eq_none {key : String × PathType} :
    ls.find? (·.key = key) = none ↔ key ∉ ls.map Location.key := by
  simp

theorem selected?_eq_none_iff : selected? path isFor ls = none ↔
    (path, .exact) ∉ ls.map Location.key ∧ ∀ l ∈ ls, l.pathType = .under → isFor l = false := by
  unfold selected?
  rw [Option.or_eq_none_iff, find?_key_eq_none, List.argmax_eq_none, List.filter_eq_nil_iff]
  simp

theorem eq_of_under (hnodup : (ls.map Location.key).Nodup) (hl : l ∈ ls) (hl' : l' ∈ ls)
    (htype : l.pathType = .under) (htype' : l'.pathType = .under) (hpath : l.path = l'.path) : l = l' := by
  refine List.inj_on_of_nodup_map hnodup hl hl' ?_
  rw [Location.key, Location.key, hpath, htype, htype']

/-- Locations of a host have keys of their own, so no two prefixes of a path are equally long. -/
theorem selected?_eq_some_iff (hnodup : (ls.map Location.key).Nodup) (hfor : ∀ l ∈ ls, isFor l → l.begins path) :
    selected? path isFor ls = some l ↔ l ∈ ls ∧ Serves path isFor ls l := by
  unfold selected?
  rw [Option.or_eq_some_iff, find?_key_eq_none]
  constructor
  · rintro (hfind | ⟨hfree, hmax⟩)
    · exact ⟨List.mem_of_find?_eq_some hfind, .exact (by simpa using List.find?_some hfind)⟩
    · have hmem := List.mem_filter.1 (List.argmax_mem hmax)
      simp only [Bool.and_eq_true, decide_eq_true_eq] at hmem
      refine ⟨hmem.1, .longest hfree hmem.2.1 hmem.2.2 fun l' hl' htype' hfor' => ?_⟩
      have hcandidate : l' ∈ ls.filter fun l => l.pathType = .under && isFor l :=
        List.mem_filter.2 ⟨hl', by simp [htype', hfor']⟩
      exact List.le_of_mem_argmax (f := fun l : Location => l.path.utf8ByteSize) hcandidate hmax
  · rintro ⟨hl, hkey | ⟨hfree, htype, hlfor, hlongest⟩⟩
    · exact .inl (find?_key_of_mem hnodup hl hkey)
    · refine .inr ⟨hfree, ?_⟩
      have hcandidate : l ∈ ls.filter fun l => l.pathType = .under && isFor l :=
        List.mem_filter.2 ⟨hl, by simp [htype, hlfor]⟩
      cases hmax : (ls.filter fun l => l.pathType = .under && isFor l).argmax (·.path.utf8ByteSize) with
      | none => simp [List.argmax_eq_none.1 hmax] at hcandidate
      | some m =>
        have hmem := List.mem_filter.1 (List.argmax_mem hmax)
        simp only [Bool.and_eq_true, decide_eq_true_eq] at hmem
        have hsize : m.path.utf8ByteSize = l.path.utf8ByteSize :=
          le_antisymm (hlongest m hmem.1 hmem.2.1 hmem.2.2)
            (List.le_of_mem_argmax (f := fun l : Location => l.path.utf8ByteSize) hcandidate hmax)
        have hpath : m.path = l.path := eq_of_hasPrefix (hfor m hmem.1 hmem.2.2) (hfor l hl hlfor) hsize
        rw [eq_of_under hnodup hmem.1 hl hmem.2.1 htype hpath]

section Expanded

theorem slashEnded_size (path : String) : path.utf8ByteSize ≤ (slashEnded path).utf8ByteSize ∧
    (slashEnded path).utf8ByteSize ≤ path.utf8ByteSize + 1 := by
  unfold slashEnded
  split
  · omega
  · have hslash : "/".utf8ByteSize = 1 := rfl
    rw [String.utf8ByteSize_append, hslash]
    omega

theorem hasPrefix_slashEnded (path : String) : hasPrefix path (slashEnded path) := by
  unfold slashEnded
  split
  · exact hasPrefix_self path
  · exact hasPrefix_iff.2 ⟨"/", rfl⟩

namespace Location

theorem pathType_of_isExpanded (h : l.isExpanded keys) : l.pathType = .under := by
  rw [isExpanded, Bool.and_eq_true, decide_eq_true_iff] at h
  exact h.1

theorem not_isExpanded_of_exact (h : l.pathType = .exact) : l.isExpanded keys = false := by
  refine Bool.eq_false_iff.2 fun hexpanded => ?_
  rw [pathType_of_isExpanded hexpanded] at h
  cases h

theorem expand_of_not_isExpanded (h : l.isExpanded keys = false) :
    ∃ e, l.expand keys = [e] ∧ e.key = l.key := by
  rw [expand_eq]
  by_cases hroot : l.path = rootPath
  · exact ⟨l, if_pos hroot, rfl⟩
  · have hleft : l.isLeftAs keys = true := by simpa [isExpanded_eq, hroot] using h
    exact ⟨l.written, by rw [if_neg hroot, if_pos hleft], rfl⟩

theorem mem_expand_of_isExpanded (h : l.isExpanded keys) :
    e ∈ l.expand keys ↔ e = l.slashed ∨ e = l.exactCopy ∧ (l.path, .exact) ∉ keys := by
  rw [isExpanded_eq, Bool.and_eq_true, Bool.not_eq_true', decide_eq_true_iff] at h
  rw [expand_eq, if_neg h.1, h.2, if_neg Bool.false_ne_true]
  split
  next hkey => simp [List.contains_iff_mem.1 hkey]
  next hkey => simp [mt List.contains_iff_mem.2 hkey]

theorem prefixPath_size (keys : List (String × PathType)) (l : Location) :
    l.path.utf8ByteSize ≤ (l.prefixPath keys).utf8ByteSize ∧
      (l.prefixPath keys).utf8ByteSize ≤ l.path.utf8ByteSize + 1 := by
  unfold prefixPath
  split
  · exact slashEnded_size l.path
  · omega

theorem covers_iff : l.covers keys path ↔
    l.isExpanded keys ∧ l.path = path ∨ hasPrefix (l.prefixPath keys) path := by
  unfold covers prefixPath
  cases l.isExpanded keys <;> simp [begins]

theorem begins_of_covers (h : l.covers keys path) : l.begins path := by
  rcases covers_iff.1 h with ⟨_, rfl⟩ | h
  · exact hasPrefix_self l.path
  · refine hasPrefix_trans ?_ h
    unfold prefixPath
    split
    · exact hasPrefix_slashEnded l.path
    · exact hasPrefix_self l.path

theorem under_expand (he : e ∈ l.expand keys) (htype : e.pathType = .under) :
    l.pathType = .under ∧ e.path = l.prefixPath keys := by
  unfold prefixPath
  cases h : l.isExpanded keys with
  | false =>
    obtain ⟨e', hexpand, hkey⟩ := expand_of_not_isExpanded h
    rw [hexpand, List.mem_singleton] at he
    rw [he] at htype ⊢
    exact ⟨(congrArg Prod.snd hkey).symm.trans htype, congrArg Prod.fst hkey⟩
  | true =>
    rcases (mem_expand_of_isExpanded h).1 he with rfl | ⟨rfl, _⟩
    · exact ⟨htype, rfl⟩
    · cases htype

theorem exists_under_expand (keys : List (String × PathType)) (htype : l.pathType = .under) :
    ∃ e ∈ l.expand keys, e.pathType = .under ∧ e.path = l.prefixPath keys := by
  unfold prefixPath
  cases h : l.isExpanded keys with
  | false =>
    obtain ⟨e, hexpand, hkey⟩ := expand_of_not_isExpanded h
    exact ⟨e, by rw [hexpand]; exact List.mem_singleton_self e, (congrArg Prod.snd hkey).trans htype,
      congrArg Prod.fst hkey⟩
  | true => exact ⟨l.slashed, (mem_expand_of_isExpanded h).2 (.inl rfl), htype, rfl⟩

end Location

theorem Location.exists_exact_expand (keys : List (String × PathType)) (h : l.key = (path, .exact)) :
    ∃ e ∈ l.expand keys, e.key = (path, .exact) := by
  have hexpanded : l.isExpanded keys = false := not_isExpanded_of_exact (congrArg Prod.snd h)
  obtain ⟨e, hexpand, hkept⟩ := expand_of_not_isExpanded hexpanded
  exact ⟨e, by rw [hexpand]; exact List.mem_singleton_self e, hkept.trans h⟩

theorem exact_mem_expandPrefixes : (path, .exact) ∈ (expandPrefixes ls).map Location.key ↔
    (path, .exact) ∈ ls.map Location.key ∨ ∃ l ∈ ls, l.isExpanded (ls.map Location.key) ∧ l.path = path := by
  simp only [expandPrefixes, List.mem_map, List.mem_flatMap]
  constructor
  · rintro ⟨e, ⟨l, hl, he⟩, hkey⟩
    cases hexpanded : l.isExpanded (ls.map Location.key) with
    | false =>
      obtain ⟨e', hexpand, hkept⟩ := Location.expand_of_not_isExpanded hexpanded
      rw [hexpand, List.mem_singleton] at he
      exact .inl ⟨l, hl, by rw [← hkept, ← he, hkey]⟩
    | true =>
      rcases (Location.mem_expand_of_isExpanded hexpanded).1 he with rfl | ⟨rfl, _⟩
      · have htype : l.pathType = .exact := congrArg Prod.snd hkey
        rw [Location.not_isExpanded_of_exact htype] at hexpanded
        cases hexpanded
      · exact .inr ⟨l, hl, hexpanded, congrArg Prod.fst hkey⟩
  · have hkept (h : (path, .exact) ∈ ls.map Location.key) :
        ∃ e, (∃ l ∈ ls, e ∈ l.expand (ls.map Location.key)) ∧ e.key = (path, .exact) := by
      obtain ⟨l, hl, hkey⟩ := List.mem_map.1 h
      obtain ⟨e, he, hkept⟩ := Location.exists_exact_expand (ls.map Location.key) hkey
      exact ⟨e, ⟨l, hl, he⟩, hkept⟩
    rintro (⟨l, hl, hkey⟩ | ⟨l, hl, hexpanded, rfl⟩)
    · exact hkept (List.mem_map.2 ⟨l, hl, hkey⟩)
    · by_cases hthere : (l.path, .exact) ∈ ls.map Location.key
      · exact hkept hthere
      · exact ⟨l.exactCopy, ⟨l, hl, (Location.mem_expand_of_isExpanded hexpanded).2 (.inr ⟨rfl, hthere⟩)⟩, rfl⟩

/-- Of prefixes that a path lies below, the longest one is still the longest when both have become prefixes
with slashes at their ends. -/
theorem prefixPath_mono (hnodup : (ls.map Location.key).Nodup) (hl : l ∈ ls) (hl' : l' ∈ ls)
    (htype : l.pathType = .under) (htype' : l'.pathType = .under) (hcovers : l.covers keys path)
    (hcovers' : l'.covers keys path) (hsize : l'.path.utf8ByteSize ≤ l.path.utf8ByteSize) :
    (l'.prefixPath keys).utf8ByteSize ≤ (l.prefixPath keys).utf8ByteSize := by
  by_cases hpath : l'.path = l.path
  · rw [eq_of_under hnodup hl' hl htype' htype hpath]
  · have hne : l'.path.utf8ByteSize ≠ l.path.utf8ByteSize := fun heq => hpath
      (eq_of_hasPrefix (Location.begins_of_covers hcovers') (Location.begins_of_covers hcovers) heq)
    have hupper := (l'.prefixPath_size keys).2
    have hlower := (l.prefixPath_size keys).1
    omega

/-- A location that serves a request before expansion is expanded to one that serves it afterwards. -/
theorem Serves.expand (hnodup : (ls.map Location.key).Nodup) (hl : l ∈ ls)
    (h : Serves path (Location.covers (ls.map Location.key) path) ls l) :
    ∃ e ∈ l.expand (ls.map Location.key), Serves path (Location.begins path) (expandPrefixes ls) e := by
  cases h with
  | exact hkey =>
    obtain ⟨e, he, hkept⟩ := Location.exists_exact_expand (ls.map Location.key) hkey
    exact ⟨e, he, .exact hkept⟩
  | longest hfree htype hcovers hlongest =>
    by_cases hown : l.isExpanded (ls.map Location.key) ∧ l.path = path
    · obtain ⟨hexpanded, rfl⟩ := hown
      exact ⟨l.exactCopy, (Location.mem_expand_of_isExpanded hexpanded).2 (.inr ⟨rfl, hfree⟩), .exact rfl⟩
    · obtain ⟨e, he, hetype, hepath⟩ := Location.exists_under_expand (ls.map Location.key) htype
      refine ⟨e, he, .longest ?_ hetype ?_ ?_⟩
      · rw [exact_mem_expandPrefixes]
        rintro (hexact | ⟨l', hl', hexpanded, rfl⟩)
        · exact hfree hexact
        · -- no prefix of the path is longer than the path itself, so this is the one that is selected
          have htype' := Location.pathType_of_isExpanded hexpanded
          have hbegins := Location.begins_of_covers hcovers
          have hsize := hlongest l' hl' htype' (Location.covers_iff.2 (.inl ⟨hexpanded, rfl⟩))
          have hpath : l.path = l'.path := eq_of_hasPrefix hbegins (hasPrefix_self l'.path)
            (le_antisymm (size_le_of_hasPrefix hbegins) hsize)
          obtain rfl := eq_of_under hnodup hl hl' htype htype' hpath
          exact hown ⟨hexpanded, rfl⟩
      · rw [Location.begins, hepath]
        exact (Location.covers_iff.1 hcovers).resolve_left hown
      · intro e' he' hetype' hbegins'
        obtain ⟨l', hl', hexpand'⟩ := List.mem_flatMap.1 he'
        obtain ⟨htype', hepath'⟩ := Location.under_expand hexpand' hetype'
        rw [Location.begins, hepath'] at hbegins'
        have hcovers' : l'.covers (ls.map Location.key) path := Location.covers_iff.2 (.inr hbegins')
        rw [hepath, hepath']
        exact prefixPath_mono hnodup hl hl' htype htype' hcovers hcovers' (hlongest l' hl' htype' hcovers')

theorem selected?_expandPrefixes_none
    (h : selected? path (Location.covers (ls.map Location.key) path) ls = none) :
    selected? path (Location.begins path) (expandPrefixes ls) = none := by
  obtain ⟨hfree, hnone⟩ := selected?_eq_none_iff.1 h
  rw [selected?_eq_none_iff, exact_mem_expandPrefixes]
  constructor
  · rintro (hexact | ⟨l, hl, hexpanded, rfl⟩)
    · exact hfree hexact
    · have hcovers : l.covers (ls.map Location.key) l.path := Location.covers_iff.2 (.inl ⟨hexpanded, rfl⟩)
      rw [hnone l hl (Location.pathType_of_isExpanded hexpanded)] at hcovers
      cases hcovers
  · intro e he hetype
    obtain ⟨l, hl, hexpand⟩ := List.mem_flatMap.1 he
    obtain ⟨htype, hepath⟩ := Location.under_expand hexpand hetype
    refine Bool.eq_false_iff.2 fun hbegins => ?_
    rw [Location.begins, hepath] at hbegins
    have hcovers : l.covers (ls.map Location.key) path := Location.covers_iff.2 (.inr hbegins)
    rw [hnone l hl htype] at hcovers
    cases hcovers

end Expanded

/-- Among expanded locations, a request is served exactly if it is among those that they are expanded from, and
then by one that the same location is expanded to, and no other location. -/
theorem selected?_expandPrefixes (hnodup : (ls.map Location.key).Nodup) (path : String) :
    Option.Rel (fun l e => e ∈ l.expand (ls.map Location.key) ∧
        ∀ l' ∈ ls, e ∈ l'.expand (ls.map Location.key) → l' = l)
      (selected? path (Location.covers (ls.map Location.key) path) ls)
      (selected? path (Location.begins path) (expandPrefixes ls)) := by
  cases hselected : selected? path (Location.covers (ls.map Location.key) path) ls with
  | none =>
    rw [selected?_expandPrefixes_none hselected]
    exact .none
  | some l =>
    obtain ⟨hl, hserves⟩ := (selected?_eq_some_iff hnodup fun _ _ => Location.begins_of_covers).1 hselected
    obtain ⟨e, he, heserves⟩ := hserves.expand hnodup hl
    have hmem : e ∈ expandPrefixes ls := List.mem_flatMap.2 ⟨l, hl, he⟩
    rw [(selected?_eq_some_iff (nodup_expandPrefixes hnodup) fun _ _ h => h).2 ⟨hmem, heserves⟩]
    refine .some ⟨he, fun l' hl' he' => ?_⟩
    exact List.inj_on_of_nodup_map hnodup hl' hl (Location.key_eq_of_expand hl' hl he' he rfl)

/-- A request below a prefix that is longer than the root and has an exact path with a slash beside it. -/
theorem selected?_expandPrefixes_of_three :
    let foo := Location.at "/foo" .under "foo"
    let ls := [Location.at "/" .under "root", foo, Location.at "/foo/" .exact "ended"]
    (ls.map Location.key).Nodup ∧
      ∃ e ∈ foo.expand (ls.map Location.key),
        selected? "/foo/bar" (Location.begins "/foo/bar") (expandPrefixes ls) = some e := by
  intro foo ls
  have hnodup : (ls.map Location.key).Nodup := by decide
  have hselected : selected? "/foo/bar" (Location.covers (ls.map Location.key) "/foo/bar") ls = some foo := by
    decide +kernel
  have hrel := selected?_expandPrefixes hnodup "/foo/bar"
  rw [hselected] at hrel
  cases hafter : selected? "/foo/bar" (Location.begins "/foo/bar") (expandPrefixes ls) with
  | none =>
    rw [hafter] at hrel
    cases hrel
  | some e =>
    rw [hafter, Option.rel_some_some] at hrel
    exact ⟨hnodup, e, hrel.1, rfl⟩

end IngressPlane
