import Mathlib.Data.List.DropRight
import IngressPlane.Proofs.Texts

/-! What trimming leaves of a text, and the items of a comma-separated list. Blanks around a list go with those
around its first and last item (`listItems_trim`), so an item is what trimming leaves of a piece between commas,
unless that is nothing (`mem_listItems`). -/
namespace IngressPlane.Text

variable {sep : Char} {s word item : String} {lead cs trail : List Char}

def OccursIn (word s : String) : Prop := ∃ front back, s = front ++ word ++ back

theorem occursIn_toList_iff : word.toList <:+: s.toList ↔ OccursIn word s := by
  constructor
  · rintro ⟨front, back, h⟩
    refine ⟨String.ofList front, String.ofList back, String.toList_inj.1 ?_⟩
    simp only [String.toList_append, String.toList_ofList, h]
  · rintro ⟨front, back, rfl⟩
    exact ⟨front.toList, back.toList, by simp only [String.toList_append]⟩

theorem occursIn_iff_infix {word : List Char} : occursIn word cs ↔ word <:+: cs := by
  induction cs with
  | nil => simp [occursIn]
  | cons c rest ih =>
    rw [occursIn, Bool.or_eq_true, List.isPrefixOf_iff_prefix, ih, List.infix_cons_iff]

theorem contains_iff : contains s word ↔ OccursIn word s :=
  occursIn_iff_infix.trans occursIn_toList_iff

theorem OccursIn.trans {text : String} (h : OccursIn word s) (h' : OccursIn s text) : OccursIn word text :=
  occursIn_toList_iff.1 ((occursIn_toList_iff.2 h).trans (occursIn_toList_iff.2 h'))

structure IsTrimmed (s : String) : Prop where
  first : ∀ c ∈ s.toList.head?, isBlank c = false
  last : ∀ c ∈ s.toList.getLast?, isBlank c = false

theorem dropTrailing_eq (p : Char → Bool) (cs : List Char) : dropTrailing p cs = cs.rdropWhile p := rfl

theorem toList_trim (s : String) : (trim s).toList = (s.toList.dropWhile isBlank).rdropWhile isBlank := by
  rw [trim, String.toList_ofList, trimChars, dropTrailing_eq]

theorem isTrimmed_trim (s : String) : IsTrimmed (trim s) := by
  constructor
  · intro c hc
    rw [toList_trim] at hc
    -- the first character is also the first one before the trailing blanks are dropped
    obtain ⟨dropped, happend⟩ := List.rdropWhile_prefix isBlank (s.toList.dropWhile isBlank)
    have hfirst : (s.toList.dropWhile isBlank).head? = some c := by
      rw [← happend, List.head?_append, hc]
      rfl
    have hnot := List.head?_dropWhile_not isBlank s.toList
    rwa [hfirst] at hnot
  · intro c hc
    rw [toList_trim] at hc
    have hne : (s.toList.dropWhile isBlank).rdropWhile isBlank ≠ [] := fun hnil => by simp [hnil] at hc
    have hnot := List.rdropWhile_last_not isBlank _ hne
    rw [List.getLast?_eq_some_getLast hne] at hc
    obtain rfl := Option.some.inj hc
    simpa using hnot

theorem exists_blanks (s : String) : ∃ lead trail, s.toList = lead ++ (trim s).toList ++ trail ∧
    (∀ c ∈ lead, isBlank c) ∧ ∀ c ∈ trail, isBlank c := by
  refine ⟨s.toList.takeWhile isBlank, (s.toList.dropWhile isBlank).rtakeWhile isBlank, ?_,
    fun c hc => List.mem_takeWhile_imp hc, fun c hc => List.mem_rtakeWhile_imp hc⟩
  rw [toList_trim, List.append_assoc, List.rdropWhile_append_rtakeWhile, List.takeWhile_append_dropWhile]

theorem occursIn_trim (s : String) : OccursIn (trim s) s := by
  obtain ⟨lead, trail, h, _, _⟩ := exists_blanks s
  exact occursIn_toList_iff.1 ⟨lead, trail, h.symm⟩

theorem trimChars_lead_append (h : ∀ c ∈ lead, isBlank c) (cs : List Char) :
    trimChars (lead ++ cs) = trimChars cs := by
  rw [trimChars, List.dropWhile_append_of_pos h, trimChars]

theorem trimChars_append_trail (h : ∀ c ∈ trail, isBlank c) (cs : List Char) :
    trimChars (cs ++ trail) = trimChars cs := by
  have hnone : trail.dropWhile isBlank = [] := List.dropWhile_eq_nil_iff.2 h
  have hdrop (cs : List Char) : (cs ++ trail).rdropWhile isBlank = cs.rdropWhile isBlank := by
    have hreverse : ∀ c ∈ trail.reverse, isBlank c := fun c hc => h c (List.mem_reverse.1 hc)
    rw [List.rdropWhile, List.reverse_append, List.dropWhile_append_of_pos hreverse, List.rdropWhile]
  rw [trimChars, trimChars, List.dropWhile_append]
  split
  next hempty => rw [hnone, List.isEmpty_iff.1 hempty]
  next => exact hdrop _

theorem map_trim_split (hsep : isBlank sep = false) (s : String) :
    (split sep (trim s)).map trim = (split sep s).map trim := by
  obtain ⟨lead, trail, hs, hlead, htrail⟩ := exists_blanks s
  have hplain {blanks : List Char} (h : ∀ c ∈ blanks, isBlank c) : sep ∉ blanks := fun hmem => by
    simp [h sep hmem] at hsep
  obtain ⟨front, last, hends, hended⟩ := exists_pieces_append (hplain htrail) (lead ++ (trim s).toList)
  obtain ⟨first, more, hbegins, hbegun⟩ := exists_append_pieces (hplain hlead) (trim s).toList
  have htrim : (pieces sep (trim s).toList).map trimChars = (pieces sep s.toList).map trimChars := by
    calc (pieces sep (trim s).toList).map trimChars
      _ = (pieces sep (lead ++ (trim s).toList)).map trimChars := by
        rw [hbegins, hbegun, List.map_cons, List.map_cons, trimChars_lead_append hlead]
      _ = (pieces sep s.toList).map trimChars := by
        rw [hs, hends, hended, List.map_append, List.map_append, List.map_singleton, List.map_singleton,
          trimChars_append_trail htrail]
  have hmap (pieces : List (List Char)) :
      (pieces.map String.ofList).map trim = (pieces.map trimChars).map String.ofList := by
    simp only [List.map_map, List.map_inj_left, Function.comp_apply, trim, String.toList_ofList, implies_true]
  rw [split, split, hmap, hmap, htrim]

theorem listItems_trim (s : String) : listItems (trim s) = listItems s := by
  rw [listItems, listItems, map_trim_split (by decide)]

theorem mem_listItems : item ∈ listItems s ↔ item ≠ "" ∧ ∃ piece ∈ split ',' s, trim piece = item := by
  simp [listItems, and_comm]

theorem occursIn_of_mem_split {piece : String} (h : piece ∈ split sep s) : OccursIn piece s := by
  obtain ⟨cs, hcs, rfl⟩ := List.mem_map.1 h
  rw [← occursIn_toList_iff, String.toList_ofList]
  exact infix_of_mem_pieces hcs

theorem occursIn_of_mem_listItems (h : item ∈ listItems s) : OccursIn item s := by
  obtain ⟨_, piece, hpiece, rfl⟩ := mem_listItems.1 h
  exact (occursIn_trim piece).trans (occursIn_of_mem_split hpiece)

theorem notMem_of_mem_listItems (h : item ∈ listItems s) : ',' ∉ item.toList := by
  obtain ⟨_, piece, hpiece, rfl⟩ := mem_listItems.1 h
  obtain ⟨cs, hcs, rfl⟩ := List.mem_map.1 hpiece
  have hplain : ',' ∉ (String.ofList cs).toList := by
    rw [String.toList_ofList]
    exact notMem_of_mem_pieces hcs
  exact fun hmem => hplain ((occursIn_toList_iff.2 (occursIn_trim _)).subset hmem)

end IngressPlane.Text
