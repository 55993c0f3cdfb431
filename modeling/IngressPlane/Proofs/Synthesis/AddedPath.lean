import IngressPlane.Proofs.Synthesis.Selection

/-! What a further path changes for the requests that do not match it. Only two prefixes that differ in nothing but a
slash at the end get in each other's way: the one without it is not expanded next to the other, and takes all that
begins with its path (`Location.Strays`). If one of them is added, it takes a request that was served by no longer
prefix; all other requests are served as before (`selected?_insert`). -/
namespace IngressPlane

open Text

variable {front back ls : List Location} {l l' m e : Location} {keys : List (String × PathType)}
  {path : String}

def ComesFrom (ls : List Location) (e o : Location) : Prop :=
  ∀ l, l ∈ ls ∧ e ∈ l.expand (ls.map Location.key) ↔ l = o

theorem comesFrom_of_expand (hnodup : (ls.map Location.key).Nodup) (hl : l ∈ ls)
    (he : e ∈ l.expand (ls.map Location.key)) : ComesFrom ls e l := by
  intro l'
  constructor
  · rintro ⟨hl', he'⟩
    exact List.inj_on_of_nodup_map hnodup hl' hl (Location.key_eq_of_expand hl' hl he' he rfl)
  · rintro rfl
    exact ⟨hl, he⟩

theorem ComesFrom.content {o : Location} (h : ComesFrom ls e o) : e.content = o.content :=
  Location.content_expand ((h o).2 rfl).2

theorem Serves.selected? (hnodup : (ls.map Location.key).Nodup) (hl : l ∈ ls)
    (h : Serves path (Location.covers (ls.map Location.key) path) ls l) :
    ∃ e, selected? path (Location.begins path) (expandPrefixes ls) = some e ∧
      e ∈ l.expand (ls.map Location.key) ∧ Serves path (Location.begins path) (expandPrefixes ls) e := by
  obtain ⟨e, he, hserves⟩ := h.expand hnodup hl
  have hmem : e ∈ expandPrefixes ls := List.mem_flatMap.2 ⟨l, hl, he⟩
  exact ⟨e, (selected?_eq_some_iff (nodup_expandPrefixes hnodup) fun _ _ h => h).2 ⟨hmem, hserves⟩, he, hserves⟩

namespace Location

/-- Whether a request is for the path of a location, or for one below it if the location is a prefix. -/
def Matches (path : String) (l : Location) : Prop :=
  path = l.path ∨ l.pathType = .under ∧ hasPrefix (slashEnded l.path) path

instance : Decidable (Matches path l) := inferInstanceAs (Decidable (_ ∨ _))

def IsSimple (l : Location) : Prop := l.isMapped = false ∧ l.policy.mapping.useRegex = false

instance : Decidable l.IsSimple := inferInstanceAs (Decidable (_ ∧ _))

/-- Whether a location takes a request for a path that only begins with its own, because of `m`: it is a prefix
that is not expanded since its path with a slash is that of another one, and `m` is one of the two. -/
structure Strays (l : Location) (ls : List Location) (m : Location) (path : String) : Prop where
  type : l.pathType = .under
  simple : l.IsSimple
  slashless : slashEnded l.path ≠ l.path
  pair : ∃ l' ∈ ls, l'.key = (slashEnded l.path, .under) ∧ (l = m ∨ l' = m)
  begins : l.begins path
  ne : l.path ≠ path

theorem slashEnded_slashEnded (path : String) : slashEnded (slashEnded path) = slashEnded path := by
  have hended : hasSuffix "/" (path ++ "/") := by simp [hasSuffix]
  unfold slashEnded
  by_cases h : hasSuffix "/" path
  · rw [if_pos h, if_pos h]
  · rw [if_neg h, if_pos hended]

theorem Strays.path_eq (h : l.Strays ls m path) (h' : l'.Strays ls m path) : l.path = l'.path := by
  have hne {a b : Location} (ha : slashEnded a.path ≠ a.path) (hb : a.key = (slashEnded b.path, .under)) : False := by
    have hpath : a.path = slashEnded b.path := congrArg Prod.fst hb
    rw [hpath, slashEnded_slashEnded] at ha
    exact ha rfl
  obtain ⟨x, _, hx, rfl | rfl⟩ := h.pair
  · obtain ⟨y, _, hy, rfl | rfl⟩ := h'.pair
    · rfl
    · exact (hne h.slashless hy).elim
  · obtain ⟨y, _, hy, rfl | rfl⟩ := h'.pair
    · exact (hne h'.slashless hx).elim
    · have hsame : slashEnded l.path = slashEnded l'.path := congrArg Prod.fst (hx.symm.trans hy)
      rw [slashEnded_of_ne h.slashless, slashEnded_of_ne h'.slashless] at hsame
      exact (String.append_left_inj "/").1 hsame

theorem isExpanded_iff : l.isExpanded keys ↔ l.path ≠ rootPath ∧ l.pathType = .under ∧ l.IsSimple ∧
    (slashEnded l.path ≠ l.path → (slashEnded l.path, .under) ∉ keys) := by
  simp only [isExpanded_eq, isLeftAs, IsSimple, Bool.and_eq_true, Bool.not_eq_true', Bool.or_eq_false_iff,
    Bool.and_eq_false_imp, decide_eq_true_eq, decide_eq_false_iff_not, List.contains_eq_mem, ne_eq,
    Decidable.not_not, and_assoc]

end Location

section Insertion

theorem mem_insert : l ∈ front ++ m :: back ↔ l = m ∨ l ∈ front ++ back :=
  List.perm_middle.mem_iff.trans List.mem_cons

theorem mem_keys_insert {key : String × PathType} : key ∈ (front ++ m :: back).map Location.key ↔
    key = m.key ∨ key ∈ (front ++ back).map Location.key := by
  rw [(List.perm_middle.map Location.key).mem_iff, List.map_cons, List.mem_cons]

theorem isExpanded_insert : l.isExpanded ((front ++ m :: back).map Location.key) ↔
    l.isExpanded ((front ++ back).map Location.key) ∧
      (slashEnded l.path ≠ l.path → m.key ≠ (slashEnded l.path, .under)) := by
  simp only [Location.isExpanded_iff, mem_keys_insert, not_or]
  constructor
  · rintro ⟨hroot, htype, hsimple, hfree⟩
    exact ⟨⟨hroot, htype, hsimple, fun hopen => (hfree hopen).2⟩, fun hopen => Ne.symm (hfree hopen).1⟩
  · rintro ⟨⟨hroot, htype, hsimple, hfree⟩, hother⟩
    exact ⟨hroot, htype, hsimple, fun hopen => ⟨Ne.symm (hother hopen), hfree hopen⟩⟩

variable (hmatch : ¬ m.Matches path)
include hmatch

theorem covers_added (hsimple : m.IsSimple) (htype : m.pathType = .under) :
    m.covers ((front ++ m :: back).map Location.key) path ↔ m.Strays (front ++ m :: back) m path := by
  have hother : m.path ≠ path ∧ ¬ hasPrefix (slashEnded m.path) path :=
    ⟨fun h => hmatch (.inl h.symm), fun h => hmatch (.inr ⟨htype, h⟩)⟩
  cases hexpanded : m.isExpanded ((front ++ m :: back).map Location.key) with
  | true =>
    rw [Location.covers, hexpanded, if_pos rfl]
    refine ⟨fun h => ?_, fun h => ?_⟩
    · simp [hother] at h
    · obtain ⟨l', hl', hkey, _⟩ := h.pair
      exact ((Location.isExpanded_iff.1 hexpanded).2.2.2 h.slashless (List.mem_map.2 ⟨l', hl', hkey⟩)).elim
  | false =>
    rw [Location.covers, hexpanded, if_neg Bool.false_ne_true]
    refine ⟨fun hbegins => ?_, Location.Strays.begins⟩
    have hopen : slashEnded m.path ≠ m.path := by
      intro h
      rw [h] at hother
      exact hother.2 hbegins
    have htaken : (slashEnded m.path, .under) ∈ (front ++ m :: back).map Location.key := by
      by_contra hfree
      have hroot : m.path ≠ rootPath := by
        intro hroot
        rw [hroot] at hopen
        exact hopen (by decide)
      rw [Location.isExpanded_iff.2 ⟨hroot, htype, hsimple, fun _ => hfree⟩] at hexpanded
      cases hexpanded
    obtain ⟨l', hl', hkey⟩ := List.mem_map.1 htaken
    exact ⟨htype, hsimple, hopen, ⟨l', hl', hkey, .inl rfl⟩, hbegins, hother.1⟩

/-- Where the further location is the prefix that another one is expanded to, the request is not below that one. -/
theorem covers_of_key (hexpanded : l.isExpanded keys) (hkey : m.key = (slashEnded l.path, .under)) :
    l.covers keys path ↔ l.path = path := by
  have hbelow : ¬ hasPrefix (slashEnded l.path) path := by
    intro h
    have hpath : m.path = slashEnded l.path := congrArg Prod.fst hkey
    refine hmatch (.inr ⟨congrArg Prod.snd hkey, ?_⟩)
    rw [hpath, Location.slashEnded_slashEnded]
    exact h
  rw [Location.covers, hexpanded, if_pos rfl]
  simp [hbelow]

variable (hnodup : ((front ++ m :: back).map Location.key).Nodup)
include hnodup

omit hmatch in
theorem nodup_of_insert : m.key ∉ (front ++ back).map Location.key ∧ ((front ++ back).map Location.key).Nodup := by
  rw [(List.perm_middle.map Location.key).nodup_iff, List.map_cons, List.nodup_cons] at hnodup
  exact hnodup

theorem covers_kept (hl : l ∈ front ++ back) :
    l.covers ((front ++ m :: back).map Location.key) path ↔
      l.covers ((front ++ back).map Location.key) path ∨ l.Strays (front ++ m :: back) m path := by
  have hpair (h : l.Strays (front ++ m :: back) m path) : m.key = (slashEnded l.path, .under) := by
    obtain ⟨l', _, hkey, rfl | rfl⟩ := h.pair
    · exact ((nodup_of_insert hnodup).1 (List.mem_map_of_mem hl)).elim
    · exact hkey
  cases hexpanded' : l.isExpanded ((front ++ m :: back).map Location.key) with
  | true =>
    obtain ⟨hexpanded, hother⟩ := isExpanded_insert.1 hexpanded'
    rw [Location.covers, Location.covers, hexpanded, hexpanded']
    exact ⟨.inl, fun h => h.elim id fun h => (hother h.slashless (hpair h)).elim⟩
  | false =>
    have hnow : l.covers ((front ++ m :: back).map Location.key) path ↔ l.begins path := by
      rw [Location.covers, hexpanded', if_neg Bool.false_ne_true]
    cases hexpanded : l.isExpanded ((front ++ back).map Location.key) with
    | false =>
      rw [hnow, Location.covers, hexpanded, if_neg Bool.false_ne_true]
      exact ⟨.inl, fun h => h.elim id Location.Strays.begins⟩
    | true =>
      obtain ⟨_, htype, hsimple, _⟩ := Location.isExpanded_iff.1 hexpanded
      obtain ⟨hopen, hkey⟩ : slashEnded l.path ≠ l.path ∧ m.key = (slashEnded l.path, .under) := by
        by_contra hfree
        rw [isExpanded_insert.2 ⟨hexpanded, fun hopen hkey => hfree ⟨hopen, hkey⟩⟩] at hexpanded'
        cases hexpanded'
      rw [hnow, covers_of_key hmatch hexpanded hkey]
      constructor
      · intro hbegins
        by_cases hpath : l.path = path
        · exact .inl hpath
        · exact .inr ⟨htype, hsimple, hopen, ⟨m, mem_insert.2 (.inl rfl), hkey, .inr rfl⟩, hbegins, hpath⟩
      · rintro (rfl | h)
        · exact hasPrefix_self l.path
        · exact h.begins

variable (hsimple : m.IsSimple)
include hsimple

/-- The prefixes that take the request among the locations with a further one. -/
theorem covers_insert (hl : l ∈ front ++ m :: back) (htype : l.pathType = .under) :
    l.covers ((front ++ m :: back).map Location.key) path ↔
      (l ∈ front ++ back ∧ l.covers ((front ++ back).map Location.key) path) ∨
        l.Strays (front ++ m :: back) m path := by
  rcases mem_insert.1 hl with rfl | hold
  · have hnew : l ∉ front ++ back := fun h => (nodup_of_insert hnodup).1 (List.mem_map_of_mem h)
    rw [covers_added hmatch hsimple htype]
    simp [hnew]
  · rw [covers_kept hmatch hnodup hold]
    simp only [hold, true_and]

omit hnodup hsimple in
theorem exact_mem_keys_insert : (path, .exact) ∈ (front ++ m :: back).map Location.key ↔
    (path, .exact) ∈ (front ++ back).map Location.key := by
  rw [mem_keys_insert, or_iff_right]
  exact fun h => hmatch (.inl (congrArg Prod.fst h))

theorem Serves.insert (hl : l ∈ front ++ back)
    (h : Serves path (Location.covers ((front ++ back).map Location.key) path) (front ++ back) l)
    (hstrays : ∀ l' ∈ front ++ m :: back, l'.Strays (front ++ m :: back) m path →
      l'.path.utf8ByteSize ≤ l.path.utf8ByteSize) :
    Serves path (Location.covers ((front ++ m :: back).map Location.key) path) (front ++ m :: back) l := by
  cases h with
  | exact hkey => exact .exact hkey
  | longest hfree htype hcovers hlongest =>
    have hmem : l ∈ front ++ m :: back := mem_insert.2 (.inr hl)
    refine .longest (mt (exact_mem_keys_insert hmatch).1 hfree) htype
      ((covers_insert hmatch hnodup hsimple hmem htype).2 (.inl ⟨hl, hcovers⟩)) fun l' hl' htype' hcovers' => ?_
    rcases (covers_insert hmatch hnodup hsimple hl' htype').1 hcovers' with ⟨hold, hcovered⟩ | hstray
    · exact hlongest l' hold htype' hcovered
    · exact hstrays l' hl' hstray

/-- A location that strays serves the request if no exact one did, nor a longer prefix. -/
theorem Location.Strays.serves (hl : l ∈ front ++ m :: back) (h : l.Strays (front ++ m :: back) m path)
    (hfree : (path, .exact) ∉ (front ++ back).map Location.key)
    (hlongest : ∀ l' ∈ front ++ back, l'.pathType = .under →
      l'.covers ((front ++ back).map Location.key) path → l'.path.utf8ByteSize ≤ l.path.utf8ByteSize) :
    Serves path (Location.covers ((front ++ m :: back).map Location.key) path) (front ++ m :: back) l := by
  refine .longest (mt (exact_mem_keys_insert hmatch).1 hfree) h.type
    ((covers_insert hmatch hnodup hsimple hl h.type).2 (.inr h)) fun l' hl' htype' hcovers' => ?_
  rcases (covers_insert hmatch hnodup hsimple hl' htype').1 hcovers' with ⟨hold, hcovered⟩ | hstray
  · exact hlongest l' hold htype' hcovered
  · rw [hstray.path_eq h]

theorem selected?_insert_none (hstrays : ∀ l ∈ front ++ m :: back, ¬ l.Strays (front ++ m :: back) m path)
    (h : selected? path (Location.covers ((front ++ back).map Location.key) path) (front ++ back) = none) :
    selected? path (Location.covers ((front ++ m :: back).map Location.key) path) (front ++ m :: back) = none := by
  obtain ⟨hfree, hnone⟩ := selected?_eq_none_iff.1 h
  refine selected?_eq_none_iff.2 ⟨mt (exact_mem_keys_insert hmatch).1 hfree, fun l hl htype => ?_⟩
  rw [← Bool.not_eq_true, covers_insert hmatch hnodup hsimple hl htype]
  rintro (⟨hold, hcovered⟩ | hstray)
  · rw [hnone l hold htype] at hcovered
    cases hcovered
  · exact hstrays l hl hstray

end Insertion

/-- What is selected for a request tells how long the location is that it comes from: as long as the request if it
is exact, and else at most one shorter. -/
theorem size_le_of_selected (hbegins : l'.begins path) (he : e ∈ l.expand keys)
    (hselected : Serves path (Location.begins path) ls e)
    (houtdone : e.pathType = .exact ∨ l'.path.utf8ByteSize < e.path.utf8ByteSize) :
    l'.path.utf8ByteSize ≤ l.path.utf8ByteSize := by
  cases hselected with
  | exact hkey =>
    have hpath : l.path = path := by
      rcases Location.expand_cases he with ⟨rfl, _⟩ | rfl | ⟨hleft, rfl | ⟨rfl, _⟩⟩
      · exact congrArg Prod.fst hkey
      · exact congrArg Prod.fst hkey
      · have hexact : l.pathType = .exact := congrArg Prod.snd hkey
        rw [(Location.isLeftAs_eq_false hleft).1] at hexact
        cases hexact
      · exact congrArg Prod.fst hkey
    rw [hpath]
    exact size_le_of_hasPrefix hbegins
  | longest _ htype _ _ =>
    have hsize := (l.prefixPath_size keys).2
    rw [← (Location.under_expand he htype).2] at hsize
    rcases houtdone with hexact | hlonger
    · rw [htype] at hexact
      cases hexact
    · omega

theorem size_le_of_yields (hnodup : (ls.map Location.key).Nodup) {size : ℕ}
    (hyields : ∀ e ∈ selected? path (Location.begins path) (expandPrefixes ls),
      e.pathType = .under ∧ e.path.utf8ByteSize ≤ size) :
    (path, .exact) ∉ ls.map Location.key ∧
      ∀ l ∈ ls, l.pathType = .under → l.covers (ls.map Location.key) path → l.path.utf8ByteSize ≤ size := by
  cases hserved : selected? path (Location.covers (ls.map Location.key) path) ls with
  | none =>
    obtain ⟨hfree, hnone⟩ := selected?_eq_none_iff.1 hserved
    refine ⟨hfree, fun l hl htype hcovers => ?_⟩
    rw [hnone l hl htype] at hcovers
    cases hcovers
  | some o =>
    obtain ⟨ho, hserves⟩ := (selected?_eq_some_iff hnodup fun _ _ => Location.begins_of_covers).1 hserved
    obtain ⟨e, he, hexpand, _⟩ := hserves.selected? hnodup ho
    obtain ⟨htype, hsize⟩ := hyields e he
    obtain ⟨hotype, hepath⟩ := Location.under_expand hexpand htype
    cases hserves with
    | exact hkey =>
      have hexact : o.pathType = .exact := congrArg Prod.snd hkey
      rw [hotype] at hexact
      cases hexact
    | longest hfree _ _ hlongest =>
      refine ⟨hfree, fun l hl hltype hcovers => ?_⟩
      have hlonger := hlongest l hl hltype hcovers
      have hprefix := (o.prefixPath_size (ls.map Location.key)).1
      rw [hepath] at hsize
      omega

/-- A location that only takes requests which match it is added to others. A request that it does not match is served
by what the same location is expanded to as before, unless a prefix strays because of it, for which the request
was served by no exact location and no longer prefix: then that prefix serves it. -/
theorem selected?_insert (hnodup : ((front ++ m :: back).map Location.key).Nodup) (hsimple : m.IsSimple)
    (hmatch : ¬ m.Matches path) :
    let ls := front ++ back
    let ls' := front ++ m :: back
    let before := selected? path (Location.begins path) (expandPrefixes ls)
    let after := selected? path (Location.begins path) (expandPrefixes ls')
    (∀ l ∈ ls', l.Strays ls' m path →
        (∀ e ∈ before, e.pathType = .under ∧ e.path.utf8ByteSize ≤ l.path.utf8ByteSize) →
        ∃ e ∈ after, ComesFrom ls' e l) ∧
      ((∀ l ∈ ls', l.Strays ls' m path →
          ∃ e ∈ before, e.pathType = .exact ∨ l.path.utf8ByteSize < e.path.utf8ByteSize) →
        Option.Rel (fun e e' => ∃ o, ComesFrom ls e o ∧ ComesFrom ls' e' o) before after) := by
  intro ls ls' before after
  have hold : (ls.map Location.key).Nodup := (nodup_of_insert hnodup).2
  constructor
  · intro l hl hstray hyields
    obtain ⟨hfree, hlongest⟩ := size_le_of_yields hold hyields
    have hserves : Serves path (Location.covers (ls'.map Location.key) path) ls' l :=
      hstray.serves hmatch hnodup hsimple hl hfree hlongest
    obtain ⟨e, he, hexpand, _⟩ := hserves.selected? hnodup hl
    exact ⟨e, he, comesFrom_of_expand hnodup hl hexpand⟩
  · intro houtdone
    cases hbefore : selected? path (Location.covers (ls.map Location.key) path) ls with
    | none =>
      have hnone : before = none := selected?_expandPrefixes_none hbefore
      have hstrays : ∀ l ∈ ls', ¬ l.Strays ls' m path := fun l hl hstray => by
        obtain ⟨e, he, _⟩ := houtdone l hl hstray
        rw [hnone] at he
        cases he
      have hafter : after = none :=
        selected?_expandPrefixes_none (selected?_insert_none hmatch hnodup hsimple hstrays hbefore)
      rw [hnone, hafter]
      exact .none
    | some o =>
      obtain ⟨ho, hserves⟩ := (selected?_eq_some_iff hold fun _ _ => Location.begins_of_covers).1 hbefore
      obtain ⟨e, he, hexpand, hselected⟩ := hserves.selected? hold ho
      have hstrays : ∀ l ∈ ls', l.Strays ls' m path → l.path.utf8ByteSize ≤ o.path.utf8ByteSize := by
        intro l hl hstray
        obtain ⟨e', he', hless⟩ := houtdone l hl hstray
        obtain rfl : e = e' := Option.some.inj (he.symm.trans he')
        exact size_le_of_selected hstray.begins hexpand hselected hless
      have ho' : o ∈ ls' := mem_insert.2 (.inr ho)
      obtain ⟨e', he', hexpand', _⟩ := (hserves.insert hmatch hnodup hsimple ho hstrays).selected? hnodup ho'
      have hbefore' : before = some e := he
      have hafter' : after = some e' := he'
      rw [hbefore', hafter']
      exact .some ⟨o, comesFrom_of_expand hold ho hexpand, comesFrom_of_expand hnodup ho' hexpand'⟩

/-- A prefix that strays for a request which a longer one goes on serving. -/
theorem selected?_insert_of_longer :
    let foo := Location.at "/foo" .under "foo"
    let m := Location.at "/foo/" .under "under"
    let front := [Location.at "/" .under "root", foo]
    let back := [Location.at "/foobar" .under "foobar"]
    ((front ++ m :: back).map Location.key).Nodup ∧ m.IsSimple ∧ ¬ m.Matches "/foobar/x" ∧
      foo.Strays (front ++ m :: back) m "/foobar/x" ∧
      Option.Rel (fun e e' => ∃ o, ComesFrom (front ++ back) e o ∧ ComesFrom (front ++ m :: back) e' o)
        (selected? "/foobar/x" (Location.begins "/foobar/x") (expandPrefixes (front ++ back)))
        (selected? "/foobar/x" (Location.begins "/foobar/x") (expandPrefixes (front ++ m :: back))) := by
  intro foo m front back
  have hnodup : ((front ++ m :: back).map Location.key).Nodup := by decide
  have hsimple : m.IsSimple := by decide
  have hmatch : ¬ m.Matches "/foobar/x" := by decide
  have hstray : foo.Strays (front ++ m :: back) m "/foobar/x" :=
    ⟨rfl, by decide, by decide, ⟨m, by simp [front], by decide, .inr rfl⟩, by decide, by decide⟩
  have hlonger : ∃ e, selected? "/foobar/x" (Location.begins "/foobar/x") (expandPrefixes (front ++ back)) = some e ∧
      ∀ l ∈ front ++ m :: back, l.path.utf8ByteSize < e.path.utf8ByteSize := by
    refine ⟨(Location.at "/foobar" .under "foobar").slashed, by decide +kernel, by decide⟩
  obtain ⟨e, he, hsizes⟩ := hlonger
  exact ⟨hnodup, hsimple, hmatch, hstray, (selected?_insert hnodup hsimple hmatch).2
    fun l hl _ => ⟨e, he, .inr (hsizes l hl)⟩⟩

/-- A request that goes from the root to a prefix which it only begins with, once a prefix below that one is added. -/
theorem strayed_from_root :
    let ls := [Location.at "/" .under "root", Location.at "/foo" .under "foo"]
    let m := Location.at "/foo/" .under "under"
    ((ls ++ [m]).map Location.key).Nodup ∧ m.IsSimple ∧ ¬ m.Matches "/foobar" ∧
      ¬ Option.Rel (fun e e' => ∃ o, ComesFrom ls e o ∧ ComesFrom (ls ++ [m]) e' o)
        (selected? "/foobar" (Location.begins "/foobar") (expandPrefixes ls))
        (selected? "/foobar" (Location.begins "/foobar") (expandPrefixes (ls ++ [m]))) := by
  intro ls m
  refine ⟨by decide, by decide, by decide, fun hrel => ?_⟩
  have hbefore : (selected? "/foobar" (Location.begins "/foobar") (expandPrefixes ls)).map (·.backend) =
      some "root" := by decide +kernel
  have hafter : (selected? "/foobar" (Location.begins "/foobar") (expandPrefixes (ls ++ [m]))).map (·.backend) =
      some "foo" := by decide +kernel
  obtain ⟨e, he, hroot⟩ := Option.map_eq_some_iff.1 hbefore
  obtain ⟨e', he', hfoo⟩ := Option.map_eq_some_iff.1 hafter
  rw [he, he', Option.rel_some_some] at hrel
  obtain ⟨o, hfrom, hfrom'⟩ := hrel
  have hsame : e.backend = e'.backend := by
    simpa using congrArg Location.backend (hfrom.content.trans hfrom'.content.symm)
  rw [hroot, hfoo] at hsame
  exact absurd hsame (by decide)

end IngressPlane
