import IngressPlane.Text.Decimal
import IngressPlane.Text.Search
import IngressPlane.Text.Utf8

/-! Splitting texts at a separator: joined texts have the pieces of both (`split_join`), and a text is known
by its pieces (`split_inj`). The ends of a text stay in its first and last piece (`exists_append_pieces`,
`exists_pieces_append`). Numbers are known by their digits, and the beginnings of a text by their sizes. A text is
read back from its bytes, and bytes from the text that they are read as (`decodeUtf8?_utf8Bytes`,
`utf8Bytes_of_decodeUtf8?`). -/
namespace IngressPlane.Text

variable {sep : Char} {a b s : String}

theorem hasPrefix_iff : hasPrefix a s ↔ ∃ rest, s = a ++ rest := by
  unfold hasPrefix
  rw [List.isPrefixOf_iff_prefix]
  constructor
  · rintro ⟨rest, h⟩
    refine ⟨String.ofList rest, String.toList_inj.1 ?_⟩
    rw [String.toList_append, String.toList_ofList, h]
  · rintro ⟨rest, rfl⟩
    exact ⟨rest.toList, (String.toList_append).symm⟩

theorem hasSuffix_iff : hasSuffix a s ↔ ∃ rest, s = rest ++ a := by
  unfold hasSuffix
  rw [List.isSuffixOf_iff_suffix]
  constructor
  · rintro ⟨rest, h⟩
    refine ⟨String.ofList rest, String.toList_inj.1 ?_⟩
    rw [String.toList_append, String.toList_ofList, h]
  · rintro ⟨rest, rfl⟩
    exact ⟨rest.toList, (String.toList_append).symm⟩

theorem hasPrefix_self (a : String) : hasPrefix a a := hasPrefix_iff.2 ⟨"", String.append_empty.symm⟩

theorem hasPrefix_trans (ha : hasPrefix a b) (hb : hasPrefix b s) : hasPrefix a s := by
  obtain ⟨more, rfl⟩ := hasPrefix_iff.1 ha
  obtain ⟨rest, rfl⟩ := hasPrefix_iff.1 hb
  exact hasPrefix_iff.2 ⟨more ++ rest, String.append_assoc⟩

theorem size_le_of_hasPrefix (h : hasPrefix a b) : a.utf8ByteSize ≤ b.utf8ByteSize := by
  obtain ⟨rest, rfl⟩ := hasPrefix_iff.1 h
  rw [String.utf8ByteSize_append]
  omega

theorem hasPrefix_or_hasPrefix (ha : hasPrefix a s) (hb : hasPrefix b s) : hasPrefix a b ∨ hasPrefix b a := by
  simp only [hasPrefix, List.isPrefixOf_iff_prefix] at *
  exact List.prefix_or_prefix_of_prefix ha hb

theorem eq_of_hasPrefix (ha : hasPrefix a s) (hb : hasPrefix b s) (hsize : a.utf8ByteSize = b.utf8ByteSize) :
    a = b := by
  have hself {x y : String} (h : hasPrefix x y) (hsize : x.utf8ByteSize = y.utf8ByteSize) : x = y := by
    obtain ⟨rest, rfl⟩ := hasPrefix_iff.1 h
    rw [String.utf8ByteSize_append] at hsize
    rw [String.utf8ByteSize_eq_zero_iff.1 (by omega : rest.utf8ByteSize = 0), String.append_empty]
  rcases hasPrefix_or_hasPrefix ha hb with h | h
  · exact hself h hsize
  · exact (hself h hsize.symm).symm

theorem pieces_ne_nil (sep : Char) (cs : List Char) : pieces sep cs ≠ [] := by
  cases cs with
  | nil => simp [pieces]
  | cons c rest =>
    unfold pieces
    split
    · simp
    · split <;> simp

theorem pieces_append (sep : Char) (xs ys : List Char) :
    pieces sep (xs ++ sep :: ys) = pieces sep xs ++ pieces sep ys := by
  induction xs with
  | nil => simp [pieces]
  | cons c rest ih =>
    rw [List.cons_append, pieces, pieces, ih]
    split
    · rfl
    · cases hrest : pieces sep rest with
      | nil => exact (pieces_ne_nil sep rest hrest).elim
      | cons piece more => rfl

theorem intercalate_pieces (sep : Char) (cs : List Char) : [sep].intercalate (pieces sep cs) = cs := by
  induction cs with
  | nil => rfl
  | cons c rest ih =>
    rw [pieces]
    cases hrest : pieces sep rest with
    | nil => exact (pieces_ne_nil sep rest hrest).elim
    | cons piece more =>
      rw [hrest] at ih
      split
      next hsep => rw [List.intercalate_cons_cons, ih, hsep]; rfl
      next =>
        cases more with
        | nil => simpa using ih
        | cons next more =>
          dsimp only
          rw [List.intercalate_cons_cons] at ih ⊢
          rw [List.cons_append, List.cons_append, ih]

theorem pieces_inj {xs ys : List Char} : pieces sep xs = pieces sep ys ↔ xs = ys :=
  ⟨fun h => by rw [← intercalate_pieces sep xs, h, intercalate_pieces], congrArg (pieces sep)⟩

theorem pieces_map {f : Char → Char} (hf : ∀ c, f c = sep ↔ c = sep) (cs : List Char) :
    pieces sep (cs.map f) = (pieces sep cs).map (·.map f) := by
  induction cs with
  | nil => rfl
  | cons c rest ih =>
    rw [List.map_cons, pieces, pieces, ih]
    by_cases hc : c = sep
    · rw [if_pos hc, if_pos ((hf c).2 hc)]
      rfl
    · rw [if_neg hc, if_neg fun h => hc ((hf c).1 h)]
      cases pieces sep rest <;> rfl

theorem pieces_of_notMem {cs : List Char} (h : sep ∉ cs) : pieces sep cs = [cs] := by
  induction cs with
  | nil => rfl
  | cons c rest ih =>
    rw [pieces, if_neg (List.ne_of_not_mem_cons h).symm, ih (List.not_mem_of_not_mem_cons h)]

theorem notMem_of_mem_pieces {piece cs : List Char} (h : piece ∈ pieces sep cs) : sep ∉ piece := by
  induction cs generalizing piece with
  | nil => simp_all [pieces]
  | cons c rest ih =>
    rw [pieces] at h
    split at h
    next =>
      rcases List.mem_cons.1 h with rfl | h
      · exact List.not_mem_nil
      · exact ih h
    next hc =>
      cases hrest : pieces sep rest with
      | nil => exact (pieces_ne_nil sep rest hrest).elim
      | cons first more =>
        rw [hrest] at ih h
        rcases List.mem_cons.1 h with rfl | h
        · exact List.not_mem_cons_of_ne_of_not_mem (Ne.symm hc) (ih List.mem_cons_self)
        · exact ih (List.mem_cons_of_mem first h)

theorem exists_pieces_append {ending : List Char} (h : sep ∉ ending) (cs : List Char) :
    ∃ front last, pieces sep cs = front ++ [last] ∧ pieces sep (cs ++ ending) = front ++ [last ++ ending] := by
  induction cs with
  | nil => exact ⟨[], [], rfl, pieces_of_notMem h⟩
  | cons c rest ih =>
    obtain ⟨front, last, hrest, hended⟩ := ih
    rw [List.cons_append, pieces, pieces, hrest, hended]
    split
    · exact ⟨[] :: front, last, rfl, rfl⟩
    · cases front with
      | nil => exact ⟨[], c :: last, rfl, rfl⟩
      | cons first front => exact ⟨(c :: first) :: front, last, rfl, rfl⟩

theorem exists_append_pieces {start : List Char} (h : sep ∉ start) (cs : List Char) :
    ∃ first more, pieces sep cs = first :: more ∧ pieces sep (start ++ cs) = (start ++ first) :: more := by
  induction start with
  | nil =>
    obtain ⟨first, more, hcs⟩ := List.exists_cons_of_ne_nil (pieces_ne_nil sep cs)
    exact ⟨first, more, hcs, hcs⟩
  | cons c start ih =>
    obtain ⟨first, more, hcs, hstart⟩ := ih (List.not_mem_of_not_mem_cons h)
    refine ⟨first, more, hcs, ?_⟩
    rw [List.cons_append, pieces, if_neg (List.ne_of_not_mem_cons h).symm, hstart]
    rfl

theorem head?_pieces (sep : Char) (cs : List Char) :
    (pieces sep cs).head? = some (cs.takeWhile (· ≠ sep)) := by
  induction cs with
  | nil => rfl
  | cons c rest ih =>
    rw [pieces]
    by_cases hc : c = sep
    · simp [hc]
    · cases hrest : pieces sep rest with
      | nil => exact (pieces_ne_nil sep rest hrest).elim
      | cons first more => simp_all

theorem infix_of_mem_pieces {piece cs : List Char} (h : piece ∈ pieces sep cs) : piece <:+: cs := by
  induction cs generalizing piece with
  | nil => simp_all [pieces]
  | cons c rest ih =>
    have hfirst : (pieces sep (c :: rest)).head? = some ((c :: rest).takeWhile (· ≠ sep)) := head?_pieces sep _
    rw [pieces] at h hfirst
    split at h
    next =>
      rcases List.mem_cons.1 h with rfl | h
      · exact List.nil_infix
      · exact (ih h).trans (List.suffix_cons c rest).isInfix
    next hc =>
      cases hrest : pieces sep rest with
      | nil => exact (pieces_ne_nil sep rest hrest).elim
      | cons first more =>
        rw [if_neg hc, hrest] at hfirst
        rw [hrest] at ih h
        rcases List.mem_cons.1 h with rfl | h
        · have hprefix : c :: first = (c :: rest).takeWhile (· ≠ sep) := Option.some.inj hfirst
          exact hprefix ▸ (List.takeWhile_prefix _).isInfix
        · exact (ih (List.mem_cons_of_mem first h)).trans (List.suffix_cons c rest).isInfix

theorem exists_join_concat (sep : String) (texts : List String) (last : String) :
    ∃ front, join sep (texts ++ [last]) = front ++ last := by
  induction texts with
  | nil => exact ⟨"", String.empty_append.symm⟩
  | cons first rest ih =>
    obtain ⟨front, hrest⟩ := ih
    refine ⟨first ++ sep ++ front, ?_⟩
    rw [String.append_assoc, ← hrest]
    cases rest <;> rfl

theorem split_ne_nil (sep : Char) (s : String) : split sep s ≠ [] := by
  unfold split
  simpa using pieces_ne_nil sep s.toList

theorem split_of_notMem (h : sep ∉ s.toList) : split sep s = [s] := by
  rw [split, pieces_of_notMem h, List.map_singleton, String.ofList_toList]

theorem split_join (sep : Char) (a b : String) :
    split sep (a ++ String.singleton sep ++ b) = split sep a ++ split sep b := by
  unfold split
  rw [String.toList_append, String.toList_append, String.toList_singleton, List.append_assoc,
    List.singleton_append, pieces_append, List.map_append]

theorem split_inj : split sep a = split sep b ↔ a = b := by
  refine ⟨fun h => ?_, congrArg (split sep)⟩
  have hpieces : pieces sep a.toList = pieces sep b.toList :=
    (List.map_inj_right fun _ _ => String.ofList_inj.1).1 h
  exact String.toList_inj.1 (pieces_inj.1 hpieces)

theorem split_append_inj {c d : String} (h : split sep a ++ split sep b = split sep c ++ split sep d)
    (hlength : (split sep a).length = (split sep c).length) : a = c ∧ b = d := by
  obtain ⟨hleft, hright⟩ := List.append_inj h hlength
  exact ⟨split_inj.1 hleft, split_inj.1 hright⟩

theorem decimal_inj {m n : Int} (hm : 0 < m) (hn : 0 < n) (h : decimal m = decimal n) : m = n := by
  obtain ⟨m, rfl⟩ := Int.eq_ofNat_of_zero_le (Int.le_of_lt hm)
  obtain ⟨n, rfl⟩ := Int.eq_ofNat_of_zero_le (Int.le_of_lt hn)
  have hdigits : Nat.toDigits 10 m = Nat.toDigits 10 n := String.ofList_inj.1 h
  have hvalue := congrArg (Nat.ofDigitChars 10 · 0) hdigits
  simp only [Nat.ofDigitChars_ten_toDigits] at hvalue
  exact congrArg Int.ofNat hvalue

theorem isDigit_of_mem_decimal {n : Int} (hn : 0 < n) {c : Char} (h : c ∈ (decimal n).toList) :
    c.isDigit := by
  obtain ⟨n, rfl⟩ := Int.eq_ofNat_of_zero_le (Int.le_of_lt hn)
  refine Nat.isDigit_of_mem_toDigits (b := 10) (n := n) (by decide) (by decide) ?_
  simpa [decimal, Nat.repr] using h

theorem isAlpha_of_isDigit {c : Char} (h : c.isDigit) : c.isAlpha = false := by
  have hlast : c.val ≤ '9'.val := of_decide_eq_true (Bool.and_eq_true_iff.1 h).2
  have hbefore {first : UInt32} (hfirst : '9'.val < first) : ¬ first ≤ c.val :=
    fun hc => absurd (UInt32.lt_of_lt_of_le hfirst hc) (UInt32.not_lt.2 hlast)
  have hupper : c.isUpper = false := decide_eq_false fun hc => hbefore (by decide) hc.1
  have hlower : c.isLower = false :=
    Bool.and_eq_false_iff.2 (.inl (decide_eq_false (hbefore (by decide))))
  exact Bool.or_eq_false_iff.2 ⟨hupper, hlower⟩

theorem toList_loop (bytes : ByteArray) (k i : Nat) (done : List UInt8) (hk : bytes.size - i = k)
    (hi : i ≤ bytes.size) : ByteArray.toList.loop bytes i done = done.reverse ++ bytes.data.toList.drop i := by
  have hlength : bytes.data.toList.length = bytes.size := rfl
  induction k generalizing i done with
  | zero => rw [ByteArray.toList.loop, if_neg (by omega), List.drop_eq_nil_of_le (by omega), List.append_nil]
  | succ k ih =>
    have hlt : i < bytes.data.toList.length := by omega
    have hget : bytes.get! i = bytes.data.toList[i] := by
      have hget' : bytes.get! i = bytes.data[i]! := rfl
      rw [hget', getElem!_pos bytes.data i hlt, Array.getElem_toList]
    rw [ByteArray.toList.loop, if_pos (by omega), ih (i + 1) _ (by omega) (by omega), List.reverse_cons,
      List.append_assoc, hget, List.drop_eq_getElem_cons hlt]
    rfl

theorem toList_byteArray (bytes : ByteArray) : bytes.toList = bytes.data.toList :=
  toList_loop bytes _ 0 [] rfl (Nat.zero_le _)

theorem utf8Bytes_eq (s : String) : utf8Bytes s = s.toList.flatMap String.utf8EncodeChar := by
  rw [utf8Bytes, toList_byteArray, String.toUTF8, ← String.utf8Encode_toList, List.utf8Encode,
    List.data_toByteArray]

theorem length_utf8Bytes (s : String) : (utf8Bytes s).length = s.utf8ByteSize := by
  rw [utf8Bytes, toList_byteArray]
  rfl

theorem utf8Bytes_append (a b : String) : utf8Bytes (a ++ b) = utf8Bytes a ++ utf8Bytes b := by
  rw [utf8Bytes_eq, String.toList_append, List.flatMap_append, ← utf8Bytes_eq, ← utf8Bytes_eq]

theorem mem_utf8EncodeChar {byte : UInt8} {c : Char} (h : byte ∈ String.utf8EncodeChar c) :
    byte.toNat = c.val.toNat ∨ 128 ≤ byte.toNat := by
  have hofNat (n : Nat) : (UInt8.ofNat n).toNat = n % 256 := UInt8.toNat_ofNat'
  unfold String.utf8EncodeChar at h
  dsimp only at h
  split at h
  next hascii =>
    rw [List.mem_singleton.1 h, hofNat]
    omega
  next =>
    -- each byte of a longer sequence has its highest bit set
    right
    split at h
    · simp only [List.mem_cons, List.not_mem_nil, or_false] at h
      rcases h with rfl | rfl <;> rw [hofNat] <;> omega
    · split at h
      · simp only [List.mem_cons, List.not_mem_nil, or_false] at h
        rcases h with rfl | rfl | rfl <;> rw [hofNat] <;> omega
      · simp only [List.mem_cons, List.not_mem_nil, or_false] at h
        rcases h with rfl | rfl | rfl | rfl <;> rw [hofNat] <;> omega

theorem notMem_utf8Bytes {byte : UInt8} {c : Char} (hbyte : byte.toNat = c.val.toNat) (hascii : byte.toNat < 128)
    (h : c ∉ s.toList) : byte ∉ utf8Bytes s := by
  intro hmem
  rw [utf8Bytes_eq] at hmem
  obtain ⟨d, hd, hencoded⟩ := List.mem_flatMap.1 hmem
  rcases mem_utf8EncodeChar hencoded with heq | hle
  · obtain rfl : c = d := Char.ext (UInt32.toNat_inj.1 (hbyte.symm.trans heq))
    exact h hd
  · omega

theorem utf8Bytes_of_decodeUtf8? {bytes : List UInt8} (h : decodeUtf8? bytes = some s) : utf8Bytes s = bytes := by
  unfold decodeUtf8? String.fromUTF8? at h
  split at h
  · cases h
    rw [utf8Bytes, toList_byteArray]
    rfl
  · cases h

theorem decodeUtf8?_utf8Bytes (s : String) : decodeUtf8? (utf8Bytes s) = some s := by
  have hbytes : (⟨(utf8Bytes s).toArray⟩ : ByteArray) = s.toUTF8 := by
    rw [utf8Bytes, toList_byteArray]
  unfold decodeUtf8?
  rw [hbytes]
  have hvalid : s.toUTF8.IsValidUTF8 := s.isValidUTF8
  exact dif_pos hvalid

theorem utf8Bytes_inj : utf8Bytes a = utf8Bytes b ↔ a = b := by
  refine ⟨fun h => Option.some.inj ?_, congrArg utf8Bytes⟩
  rw [← decodeUtf8?_utf8Bytes, h, decodeUtf8?_utf8Bytes]

end IngressPlane.Text
