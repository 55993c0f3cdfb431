import IngressPlane.Proofs.Json.Lexing
import IngressPlane.Proofs.Json.Plain

/-! A plain value is read back from its text, be it pretty or compact (`Plain.read_pretty`, `Plain.read_compact`).
Wherever a value may come next, reading its text builds it (`IsReadBack`), whatever the gaps between its tokens: the
items of an array follow one after the other in the frame of the array, and so do the members of an object. -/
namespace IngressPlane.Json

variable {depth : Nat} {value : Json} {b b' b'' : Building} {frames : List Frame} {c : Char}
  {cs ds : List Char} {token : Token}

section Printing

def memberChars (gap : List Char) (chars : Json → List Char) (member : String × Json) : List Char :=
  quote member.1 ++ ':' :: (gap ++ chars member.2)

def separated (gap : List Char) (parts : List (List Char)) : List Char :=
  (parts.intersperse (',' :: gap)).flatten

/-- A way to print values level by level, with nothing but blanks between the tokens. -/
structure Prints (chars : Nat → Json → List Char) (gap : Nat → List Char) (colonGap : List Char) : Prop where
  atom (level : Nat) (value : Json) (harray : ∀ items, value ≠ .array items)
    (hobject : ∀ members, value ≠ .object members) : chars level value = atom value
  emptyArray (level : Nat) : chars level (.array []) = ['[', ']']
  emptyObject (level : Nat) : chars level (.object []) = ['\x7b', '\x7d']
  array (level : Nat) {items : List Json} (hne : items ≠ []) :
    chars level (.array items) = '[' :: (gap (level + 1) ++
      (separated (gap (level + 1)) (items.map (chars (level + 1))) ++ (gap level ++ [']'])))
  object (level : Nat) {members : List (String × Json)} (hne : members ≠ []) :
    chars level (.object members) = '\x7b' :: (gap (level + 1) ++
      (separated (gap (level + 1)) (members.map (memberChars colonGap (chars (level + 1)))) ++
        (gap level ++ ['\x7d'])))
  isBlank (level : Nat) : ∀ c ∈ gap level, isJsonBlank c
  isBlank_colonGap : ∀ c ∈ colonGap, isJsonBlank c

theorem prints_pretty : Prints prettyChars newline [' '] where
  atom level value harray hobject := by
    rw [prettyChars]
    exacts [harray, hobject]
  emptyArray level := by rw [prettyChars]; rfl
  emptyObject level := by rw [prettyChars]; rfl
  array level items hne := by
    rw [prettyChars, if_neg (by simpa using hne), enclose]
    simp [separated, List.append_assoc]
  object level members hne := by
    have hmap : members.attach.map (fun member => memberChars [' '] (prettyChars (level + 1)) member.1) =
        members.map (memberChars [' '] (prettyChars (level + 1))) := List.attach_map_val ..
    rw [prettyChars, if_neg (by simpa using hne)]
    refine (congrArg (enclose ('\x7b' :: newline (level + 1)) (',' :: newline (level + 1))
      (newline level ++ ['\x7d'])) hmap).trans ?_
    simp [enclose, separated, List.append_assoc]
  isBlank := isJsonBlank_newline
  isBlank_colonGap := List.forall_mem_singleton.2 rfl

theorem prints_compact : Prints (fun _ => compactChars) (fun _ => []) [] where
  atom _ value harray hobject := by
    rw [compactChars]
    exacts [harray, hobject]
  emptyArray _ := by rw [compactChars]; rfl
  emptyObject _ := by rw [compactChars]; rfl
  array _ items _ := by
    rw [compactChars, enclose]
    simp [separated]
  object _ members _ := by
    have hmap : members.attach.map (fun member => memberChars [] compactChars member.1) =
        members.map (memberChars [] compactChars) := List.attach_map_val ..
    rw [compactChars]
    refine (congrArg (enclose ['\x7b'] [','] ['\x7d']) hmap).trans ?_
    simp [enclose, separated]
  isBlank _ := nofun
  isBlank_colonGap := nofun

end Printing

/-- Reading characters where no token is open builds one building from another. -/
def ReadsTo (b : Building) (cs : List Char) (b' : Building) : Prop :=
  ∃ r, Reading.run ⟨.blank, b⟩ cs = some r ∧ r.settled? = some b'

theorem isWordChar_of_isJsonBlank (h : isJsonBlank c) : isWordChar c = false := by
  simp only [isJsonBlank, Bool.or_eq_true, decide_eq_true_eq] at h
  rcases h with ((rfl | rfl) | rfl) | rfl <;> decide

theorem readsTo_nil (b : Building) : ReadsTo b [] b := ⟨_, rfl, rfl⟩

theorem ReadsTo.append (h : ReadsTo b cs b') (hc : isWordChar c = false) (h' : ReadsTo b' (c :: ds) b'') :
    ReadsTo b (cs ++ c :: ds) b'' := by
  obtain ⟨r, hrun, hsettled⟩ := h
  obtain ⟨r', hrun', hsettled'⟩ := h'
  refine ⟨r', ?_, hsettled'⟩
  rw [Reading.run_append, hrun, Option.bind_some, Reading.run_of_settled hsettled hc, hrun']

theorem ReadsTo.append_gap {gap : List Char} (h : ReadsTo b cs b') (hgap : ∀ c ∈ gap, isJsonBlank c)
    (hc : isWordChar c = false) (h' : ReadsTo b' (gap ++ c :: ds) b'') : ReadsTo b (cs ++ (gap ++ c :: ds)) b'' := by
  cases gap with
  | nil => exact h.append hc h'
  | cons d gap => exact h.append (isWordChar_of_isJsonBlank (hgap d List.mem_cons_self)) h'

theorem readsTo_gap {gap : List Char} (hgap : ∀ c ∈ gap, isJsonBlank c) (h : ReadsTo b cs b') :
    ReadsTo b (gap ++ cs) b' := by
  obtain ⟨r, hrun, hsettled⟩ := h
  exact ⟨r, (run_blanks b hgap cs).trans hrun, hsettled⟩

theorem readsTo_symbol (hsymbol : symbol? c = some token)
    (hc : isJsonBlank c = false ∧ c ≠ '"' ∧ isWordChar c = false) (hstep : b.step token = some b')
    (h : ReadsTo b' cs b'') : ReadsTo b (c :: cs) b'' := by
  obtain ⟨r, hrun, hsettled⟩ := h
  obtain ⟨hblank, hquote, hword⟩ := hc
  have hfirst : Reading.step ⟨.blank, b⟩ c = some ⟨.blank, b'⟩ := by
    simp [Reading.step, betweenTokens, hblank, hquote, hword, hsymbol, hstep]
  exact ⟨r, by rw [Reading.run_cons, hfirst, Option.bind_some, hrun], hsettled⟩

theorem readsTo_quote {s : String} (hstep : b.step (.text (some s)) = some b') (h : ReadsTo b' cs b'') :
    ReadsTo b (quote s ++ cs) b'' := by
  obtain ⟨r, hrun, hsettled⟩ := h
  exact ⟨r, by rw [run_quote, hstep, Option.bind_some, hrun], hsettled⟩

theorem readsTo_word (hne : cs ≠ []) (hcs : ∀ c ∈ cs, isWordChar c = true) {value : Option Json}
    (hword : word? cs = some value) (hstep : b.step (.scalar value) = some b') : ReadsTo b cs b' :=
  ⟨_, run_word b hne hcs, (settled?_word b hword).trans hstep⟩

/-- The parts of a container are read one after the other, if each of them can begin after the comma. -/
theorem readsTo_separated {α : Type} {chars : α → List Char} {begins : Building → List α → Prop}
    {after : List α → Building} {xs : List α} {gap : List Char} (hgap : ∀ c ∈ gap, isJsonBlank c) (hne : xs ≠ [])
    (hpart : ∀ x ∈ xs, ∀ done b, begins b done → ReadsTo b (chars x) (after (x :: done)))
    (hcomma : ∀ done, ∃ b, (after done).step .comma = some b ∧ begins b done) {done : List α}
    (hb : begins b done) : ReadsTo b (separated gap (xs.map chars)) (after (xs.reverse ++ done)) := by
  induction xs generalizing b done with
  | nil => exact (hne rfl).elim
  | cons x xs ih =>
    have hfirst : ReadsTo b (chars x) (after (x :: done)) := hpart x List.mem_cons_self done b hb
    cases xs with
    | nil => simpa [separated] using hfirst
    | cons y ys =>
      obtain ⟨next, hstep, hnext⟩ := hcomma (x :: done)
      have hrest := ih (List.cons_ne_nil y ys) (fun z hz => hpart z (List.mem_cons_of_mem x hz)) hnext
      have hsplit : separated gap ((x :: y :: ys).map chars) =
          chars x ++ ',' :: (gap ++ separated gap ((y :: ys).map chars)) := by
        simp [separated, List.intersperse_cons_cons]
      rw [hsplit, List.reverse_cons, List.append_assoc]
      exact hfirst.append (by decide) (readsTo_symbol rfl (by decide) hstep (readsTo_gap hgap hrest))

def Building.AwaitsValue (b : Building) : Prop := b.want = .value ∨ b.want = .valueOrClose

theorem Building.AwaitsValue.step (h : b.AwaitsValue) (token : Token) (htoken : token ≠ .closeArray) :
    b.step token = Building.beginValue b.frames token := by
  obtain ⟨frames, want⟩ := b
  rcases h with rfl | rfl
  · rfl
  · cases token with
    | closeArray => exact (htoken rfl).elim
    | openArray | openObject | closeObject | comma | colon | text | scalar => rfl

def Building.AwaitsName (b : Building) : Prop := b.want = .name ∨ b.want = .nameOrClose

theorem Building.AwaitsName.step {done : List (Option String × Written)} {name : Option String}
    (h : b.AwaitsName) (hframes : b.frames = .object done :: frames) :
    b.step (.text name) = some ⟨.member done name :: frames, .colon⟩ := by
  obtain ⟨_, want⟩ := b
  obtain rfl := hframes
  rcases h with rfl | rfl <;> rfl

theorem writtenItems_eq (items : List Json) : writtenItems items = items.map written := by
  induction items with
  | nil => rfl
  | cons item rest ih => rw [writtenItems, ih, List.map_cons]

def writtenMember (member : String × Json) : Option String × Written := (some member.1, member.2.written)

theorem writtenMembers_eq (members : List (String × Json)) :
    writtenMembers members = members.map writtenMember := by
  induction members with
  | nil => rfl
  | cons member rest ih => rw [writtenMembers, ih, List.map_cons]; rfl

def Building.afterItems (frames : List Frame) (done : List Json) : Building :=
  ⟨.array (done.map written) :: frames, .commaOrClose⟩

def Building.afterMembers (frames : List Frame) (done : List (String × Json)) : Building :=
  ⟨.object (done.map writtenMember) :: frames, .commaOrClose⟩

theorem Building.step_afterItems (frames : List Frame) (items : List Json) :
    (afterItems frames items.reverse).step .closeArray = finish (.array (writtenItems items)) frames := by
  rw [writtenItems_eq, ← List.reverse_reverse (items.map written), ← List.map_reverse]
  rfl

theorem Building.step_afterMembers (frames : List Frame) (members : List (String × Json)) :
    (afterMembers frames members.reverse).step .closeObject = finish (.object (writtenMembers members)) frames := by
  rw [writtenMembers_eq, ← List.reverse_reverse (members.map writtenMember), ← List.map_reverse]
  rfl

/-- Whether these characters are a text of the value: wherever a value may come next, reading them builds it. -/
def IsReadBack (value : Json) (cs : List Char) : Prop :=
  ∀ b b' : Building, b.AwaitsValue → Building.finish value.written b.frames = some b' → ReadsTo b cs b'

theorem isReadBack_word {word : List Char} (hne : word ≠ []) (hchars : ∀ c ∈ word, isWordChar c = true)
    (hvalue : word? word = some (some value)) (hscalar : value.written = .scalar (some value)) :
    IsReadBack value word := by
  intro b b' hb hfinish
  have hstep : b.step (.scalar (some value)) = some b' := by
    rw [hb.step (.scalar _) nofun]
    rwa [hscalar] at hfinish
  exact readsTo_word hne hchars hvalue hstep

theorem isReadBack_integer {n : Int} (hlow : -2 ^ 63 ≤ n) (hhigh : n < 2 ^ 64) :
    IsReadBack (.integer n) (atom (.integer n)) := by
  have hword : word? (Text.decimal n).toList = some (some (.integer n)) := word?_decimal hlow hhigh
  have hne : (Text.decimal n).toList ≠ [] := by
    intro hnil
    rw [hnil] at hword
    cases hword
  exact isReadBack_word hne (isWordChar_decimal n) hword rfl

theorem isReadBack_string (s : String) : IsReadBack (.string s) (atom (.string s)) := by
  intro b b' hb hfinish
  have hstep : b.step (.text (some s)) = some b' := by
    rw [hb.step (.text _) nofun]
    exact hfinish
  have hread : ReadsTo b (quote s ++ []) b' := readsTo_quote hstep (readsTo_nil b')
  rwa [List.append_nil] at hread

section Containers
variable {items : List Json} {members : List (String × Json)} {chars : Json → List Char}
  {gap colonGap lastGap : List Char}

theorem step_openArray (hb : b.AwaitsValue) : b.step .openArray = some ⟨.array [] :: b.frames, .valueOrClose⟩ := by
  rw [hb.step .openArray nofun]
  rfl

theorem step_openObject (hb : b.AwaitsValue) : b.step .openObject = some ⟨.object [] :: b.frames, .nameOrClose⟩ := by
  rw [hb.step .openObject nofun]
  rfl

theorem isReadBack_emptyArray : IsReadBack (.array []) ['[', ']'] := fun _ b' hb hfinish =>
  readsTo_symbol rfl (by decide) (step_openArray hb) (readsTo_symbol rfl (by decide) hfinish (readsTo_nil b'))

theorem isReadBack_emptyObject : IsReadBack (.object []) ['\x7b', '\x7d'] := fun _ b' hb hfinish =>
  readsTo_symbol rfl (by decide) (step_openObject hb) (readsTo_symbol rfl (by decide) hfinish (readsTo_nil b'))

theorem isReadBack_array (hgap : ∀ c ∈ gap, isJsonBlank c) (hlast : ∀ c ∈ lastGap, isJsonBlank c) (hne : items ≠ [])
    (hitems : ∀ item ∈ items, IsReadBack item (chars item)) :
    IsReadBack (.array items) ('[' :: (gap ++ (separated gap (items.map chars) ++ (lastGap ++ [']'])))) := by
  intro b b' hb hfinish
  have hitem (item : Json) (hitem : item ∈ items) (done : List Json) (b₁ : Building)
      (hb₁ : b₁.AwaitsValue ∧ b₁.frames = .array (done.map written) :: b.frames) :
      ReadsTo b₁ (chars item) (.afterItems b.frames (item :: done)) := by
    refine hitems item hitem b₁ _ hb₁.1 ?_
    rw [hb₁.2]
    rfl
  have hall : ReadsTo ⟨.array [] :: b.frames, .valueOrClose⟩ (separated gap (items.map chars))
      (.afterItems b.frames items.reverse) := by
    rw [← List.append_nil items.reverse]
    exact readsTo_separated hgap hne hitem (fun done => ⟨_, rfl, .inl rfl, rfl⟩) ⟨.inr rfl, rfl⟩
  have hclose := (Building.step_afterItems b.frames items).trans hfinish
  have hend : ReadsTo (.afterItems b.frames items.reverse) (lastGap ++ [']']) b' :=
    readsTo_gap hlast (readsTo_symbol rfl (by decide) hclose (readsTo_nil b'))
  exact readsTo_symbol rfl (by decide) (step_openArray hb) (readsTo_gap hgap (hall.append_gap hlast (by decide) hend))

theorem isReadBack_object (hgap : ∀ c ∈ gap, isJsonBlank c) (hcolon : ∀ c ∈ colonGap, isJsonBlank c)
    (hlast : ∀ c ∈ lastGap, isJsonBlank c) (hne : members ≠ [])
    (hmembers : ∀ member ∈ members, IsReadBack member.2 (chars member.2)) :
    IsReadBack (.object members)
      ('\x7b' :: (gap ++ (separated gap (members.map (memberChars colonGap chars)) ++ (lastGap ++ ['\x7d'])))) := by
  intro b b' hb hfinish
  have hmember (member : String × Json) (hmember : member ∈ members) (done : List (String × Json))
      (b₁ : Building) (hb₁ : b₁.AwaitsName ∧ b₁.frames = .object (done.map writtenMember) :: b.frames) :
      ReadsTo b₁ (memberChars colonGap chars member) (.afterMembers b.frames (member :: done)) :=
    readsTo_quote (hb₁.1.step hb₁.2) (readsTo_symbol rfl (by decide) rfl
      (readsTo_gap hcolon (hmembers member hmember _ _ (.inl rfl) rfl)))
  have hall : ReadsTo ⟨.object [] :: b.frames, .nameOrClose⟩
      (separated gap (members.map (memberChars colonGap chars))) (.afterMembers b.frames members.reverse) := by
    rw [← List.append_nil members.reverse]
    exact readsTo_separated hgap hne hmember (fun done => ⟨_, rfl, .inl rfl, rfl⟩) ⟨.inr rfl, rfl⟩
  have hclose := (Building.step_afterMembers b.frames members).trans hfinish
  have hend : ReadsTo (.afterMembers b.frames members.reverse) (lastGap ++ ['\x7d']) b' :=
    readsTo_gap hlast (readsTo_symbol rfl (by decide) hclose (readsTo_nil b'))
  exact readsTo_symbol rfl (by decide) (step_openObject hb) (readsTo_gap hgap (hall.append_gap hlast (by decide) hend))

end Containers

/-- The text of a plain value builds it. -/
theorem Plain.isReadBack {chars : Nat → Json → List Char} {gap : Nat → List Char} {colonGap : List Char}
    (hprints : Prints chars gap colonGap) (h : value.Plain depth) (level : Nat) :
    IsReadBack value (chars level value) := by
  induction h generalizing level with
  | null =>
    rw [hprints.atom level .null nofun nofun]
    exact isReadBack_word nofun (List.all_eq_true.1 (by decide)) rfl rfl
  | @bool _ value =>
    rw [hprints.atom level (.bool value) nofun nofun]
    cases value with
    | true => exact isReadBack_word nofun (List.all_eq_true.1 (by decide)) rfl rfl
    | false => exact isReadBack_word nofun (List.all_eq_true.1 (by decide)) rfl rfl
  | integer hlow hhigh =>
    rw [hprints.atom level (.integer _) nofun nofun]
    exact isReadBack_integer hlow hhigh
  | string =>
    rw [hprints.atom level (.string _) nofun nofun]
    exact isReadBack_string _
  | @array _ items _ ih =>
    by_cases hempty : items = []
    · rw [hempty, hprints.emptyArray]
      exact isReadBack_emptyArray
    · rw [hprints.array level hempty]
      exact isReadBack_array (hprints.isBlank _) (hprints.isBlank _) hempty fun item hitem => ih item hitem _
  | @object _ members _ _ ih =>
    by_cases hempty : members = []
    · rw [hempty, hprints.emptyObject]
      exact isReadBack_emptyObject
    · rw [hprints.object level hempty]
      exact isReadBack_object (hprints.isBlank _) hprints.isBlank_colonGap (hprints.isBlank _) hempty
        fun member hmember => ih member hmember _

theorem Plain.read_eq (h : value.Plain depthLimit) (hcs : IsReadBack value cs) :
    read (String.ofList cs) = some value := by
  obtain ⟨r, hrun, hsettled⟩ := hcs .start ⟨[], .nothing value.written⟩ (.inl rfl) rfl
  have hwritten : written? (String.ofList cs) = some value.written := by
    have hrun' : cs.foldlM Reading.step ⟨.blank, .start⟩ = some r := hrun
    have hfinish : r.finish = some value.written := Reading.finish_of_settled hsettled
    rw [written?, String.toList_ofList, hrun']
    exact hfinish
  rw [read, hwritten]
  exact h.value?_written

theorem Plain.read_pretty (h : value.Plain depthLimit) : read value.pretty = some value :=
  h.read_eq (h.isReadBack prints_pretty 0)

theorem Plain.read_compact (h : value.Plain depthLimit) : read value.compact = some value :=
  h.read_eq (h.isReadBack prints_compact 0)

end IngressPlane.Json
