import IngressPlane.Json.Printer
import IngressPlane.Proofs.Json.Numerals

/-! How a reading gets through blanks, words and strings. A word is only over with the character after it, or at
the end, so what a reading has built is stated for both (`Reading.settled?`). -/
namespace IngressPlane.Json

variable {b b' : Building} {c : Char} {cs : List Char} {units : List Nat}

def Reading.run (r : Reading) (cs : List Char) : Option Reading := cs.foldlM Reading.step r

theorem Reading.run_cons (r : Reading) (c : Char) (cs : List Char) :
    r.run (c :: cs) = (r.step c).bind (·.run cs) := List.foldlM_cons ..

theorem Reading.run_append (r : Reading) (cs ds : List Char) : r.run (cs ++ ds) = (r.run cs).bind (·.run ds) :=
  List.foldlM_append ..

/-- What is built so far, once a word that is being read is over. -/
def Reading.settled? (r : Reading) : Option Building :=
  match r.lexing with
  | .blank => some r.building
  | .word chars => endWord chars r.building
  | _ => none

/-- A character outside of words goes to what is built so far. -/
theorem Reading.step_of_settled {r : Reading} (h : r.settled? = some b) (hc : isWordChar c = false) :
    r.step c = betweenTokens b c := by
  obtain ⟨lexing, building⟩ := r
  cases lexing with
  | blank => rw [← Option.some.inj h]; rfl
  | word chars =>
    have hend : endWord chars building = some b := h
    simp only [Reading.step, hc, hend, Bool.false_eq_true, if_false]
    rfl
  | text | escape | hex => cases h

theorem Reading.run_of_settled {r : Reading} (h : r.settled? = some b) (hc : isWordChar c = false)
    (cs : List Char) : r.run (c :: cs) = Reading.run ⟨.blank, b⟩ (c :: cs) := by
  rw [Reading.run_cons, Reading.run_cons, step_of_settled h hc]
  rfl

theorem Reading.finish_of_settled {r : Reading} (h : r.settled? = some b) : r.finish = b.document? := by
  obtain ⟨lexing, building⟩ := r
  cases lexing with
  | blank => rw [← Option.some.inj h]; rfl
  | word chars =>
    have hend : endWord chars building = some b := h
    simp only [Reading.finish, hend]
    rfl
  | text | escape | hex => cases h

theorem run_blanks (b : Building) {gap : List Char} (hgap : ∀ c ∈ gap, isJsonBlank c) (cs : List Char) :
    Reading.run ⟨.blank, b⟩ (gap ++ cs) = Reading.run ⟨.blank, b⟩ cs := by
  induction gap with
  | nil => rfl
  | cons c gap ih =>
    have hc : Reading.step ⟨.blank, b⟩ c = some ⟨.blank, b⟩ := if_pos (hgap c List.mem_cons_self)
    rw [List.cons_append, Reading.run_cons, hc, Option.bind_some,
      ih fun d hd => hgap d (List.mem_cons_of_mem c hd)]

theorem isJsonBlank_newline (level : Nat) : ∀ c ∈ newline level, isJsonBlank c := by
  intro c hc
  rcases List.mem_cons.1 hc with rfl | hc
  · rfl
  · rw [List.eq_of_mem_replicate hc]
    rfl

theorem run_word (b : Building) (hne : cs ≠ []) (hcs : ∀ c ∈ cs, isWordChar c = true) :
    Reading.run ⟨.blank, b⟩ cs = some ⟨.word cs.reverse, b⟩ := by
  have hmore (chars ds : List Char) (hds : ∀ c ∈ ds, isWordChar c = true) :
      Reading.run ⟨.word chars, b⟩ ds = some ⟨.word (ds.reverse ++ chars), b⟩ := by
    induction ds generalizing chars with
    | nil => rfl
    | cons d ds ih =>
      have hd : Reading.step ⟨.word chars, b⟩ d = some ⟨.word (d :: chars), b⟩ :=
        if_pos (hds d List.mem_cons_self)
      rw [Reading.run_cons, hd, Option.bind_some, ih _ fun c hc => hds c (List.mem_cons_of_mem d hc),
        List.reverse_cons, List.append_assoc]
      rfl
  cases cs with
  | nil => exact (hne rfl).elim
  | cons c cs =>
    have hc : isWordChar c = true := hcs c List.mem_cons_self
    have hstep : Reading.step ⟨.blank, b⟩ c = some ⟨.word [c], b⟩ := by
      have hother (d : Char) (hd : isWordChar d = false) : c ≠ d := by
        rintro rfl
        cases hc.symm.trans hd
      have hblank : isJsonBlank c = false := by
        simp [isJsonBlank, hother ' ' (by decide), hother '\n' (by decide), hother '\r' (by decide),
          hother '\t' (by decide)]
      have hquote : c ≠ '"' := hother '"' (by decide)
      simp [Reading.step, betweenTokens, hblank, hquote, hc]
    rw [Reading.run_cons, hstep, Option.bind_some, hmore [c] cs fun d hd => hcs d (List.mem_cons_of_mem c hd),
      List.reverse_cons]

theorem settled?_word {value : Option Json} (b : Building) (hword : word? cs = some value) :
    Reading.settled? ⟨.word cs.reverse, b⟩ = b.step (.scalar value) := by
  simp only [Reading.settled?, endWord, List.reverse_reverse, hword]
  rfl

section Strings

theorem hexValue?_digitChar : ∀ d < 16, hexValue? (Nat.digitChar d) = some d := by decide

theorem run_escaped (b : Building) (units : List Nat) (c : Char) (cs : List Char) :
    Reading.run ⟨.text units, b⟩ (escaped c ++ cs) = Reading.run ⟨.text (c.toNat :: units), b⟩ cs := by
  unfold escaped
  -- the short forms are read by computation
  iterate 7
    split
    next h => rw [h]; rfl
  split
  next hcontrol =>
    have hhigh : hexValue? (Nat.digitChar (c.toNat / 16)) = some (c.toNat / 16) :=
      hexValue?_digitChar _ (by omega)
    have hlow : hexValue? (Nat.digitChar (c.toNat % 16)) = some (c.toNat % 16) :=
      hexValue?_digitChar _ (by omega)
    have hfirst : Reading.step ⟨.hex units 2 0, b⟩ (Nat.digitChar (c.toNat / 16)) =
        some ⟨.hex units 3 (c.toNat / 16), b⟩ := by
      simp [Reading.step, hhigh]
    have hlast : Reading.step ⟨.hex units 3 (c.toNat / 16), b⟩ (Nat.digitChar (c.toNat % 16)) =
        some ⟨.text (c.toNat :: units), b⟩ := by
      simp [Reading.step, hlow, Nat.div_add_mod']
    have hopen : Reading.run ⟨.text units, b⟩ ['\\', 'u', '0', '0'] = some ⟨.hex units 2 0, b⟩ := rfl
    rw [lowHex, List.append_assoc, Reading.run_append, hopen, Option.bind_some, List.cons_append,
      Reading.run_cons, hfirst, Option.bind_some, List.cons_append, Reading.run_cons, hlast, Option.bind_some]
    rfl
  next hquote hbackslash _ _ _ _ _ hplain =>
    have hstep : Reading.step ⟨.text units, b⟩ c = some ⟨.text (c.toNat :: units), b⟩ := by
      simp [Reading.step, hquote, hbackslash, hplain]
    rw [List.cons_append, Reading.run_cons, hstep]
    rfl

theorem run_flatMap_escaped (b : Building) (units : List Nat) (text cs : List Char) :
    Reading.run ⟨.text units, b⟩ (text.flatMap escaped ++ cs) =
      Reading.run ⟨.text ((text.map Char.toNat).reverse ++ units), b⟩ cs := by
  induction text generalizing units with
  | nil => rfl
  | cons c text ih =>
    rw [List.flatMap_cons, List.append_assoc, run_escaped, ih, List.map_cons, List.reverse_cons,
      List.append_assoc]
    rfl

theorem characters?_toNat (done text : List Char) :
    characters? done (text.map Char.toNat) = some (text.reverse ++ done) := by
  have hwhole (c : Char) : isHighHalf c.toNat = false ∧ isLowHalf c.toNat = false := by
    have hvalid : c.toNat < 0xD800 ∨ 0xDFFF < c.toNat ∧ c.toNat < 0x110000 := c.valid
    simp only [isHighHalf, isLowHalf, Bool.and_eq_false_iff, decide_eq_false_iff_not]
    omega
  induction text generalizing done with
  | nil => rfl
  | cons c text ih =>
    obtain ⟨hhigh, hlow⟩ := hwhole c
    cases text with
    | nil => simp [characters?, hhigh, hlow]
    | cons d text =>
      simp only [List.map_cons] at ih ⊢
      rw [characters?, if_neg (by simp [hlow]), if_neg (by simp [hhigh]), ih]
      simp

/-- A string is read back from how it is written. -/
theorem run_quote (b : Building) (s : String) (cs : List Char) :
    Reading.run ⟨.blank, b⟩ (quote s ++ cs) =
      (b.step (.text (some s))).bind fun b' => Reading.run ⟨.blank, b'⟩ cs := by
  have hopen : Reading.step ⟨.blank, b⟩ '"' = some ⟨.text [], b⟩ := rfl
  have htext : (characters? [] (s.toList.map Char.toNat).reverse).map String.ofList = some s := by
    rw [← List.map_reverse, characters?_toNat]
    simp
  have hclose : Reading.step ⟨.text (s.toList.map Char.toNat).reverse, b⟩ '"' =
      (b.step (.text (some s))).map (⟨.blank, ·⟩) := by
    simp only [Reading.step, htext]
    cases b.step (.text (some s)) <;> rfl
  rw [quote, List.append_assoc, List.cons_append, Reading.run_cons, hopen, Option.bind_some,
    run_flatMap_escaped, List.append_nil, List.cons_append, Reading.run_cons, hclose, Option.bind_map]
  rfl

end Strings
end IngressPlane.Json
