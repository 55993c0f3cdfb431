import Mathlib.Algebra.Group.Int.Defs
import Mathlib.Algebra.Group.Nat.Defs
import Mathlib.Data.List.TakeWhile
import IngressPlane.Json.Reader

/-! Integers of at most 64 bits are read as they are written. Their digits fit, so none is left over
(`gather_toDigits`), and they begin with a zero for zero only (`eq_zero_of_head?`). -/
namespace IngressPlane.Json

open Text

theorem isDigit_digitChar : ∀ d < 10, Text.isDigit (Nat.digitChar d) = true := by decide

theorem digitsValue_digitChar : ∀ d < 10, digitsValue [Nat.digitChar d] = d := by decide

theorem eq_zero_of_digitChar : ∀ d < 10, Nat.digitChar d = '0' → d = 0 := by decide

theorem isDigit_of_mem_toDigits (n : Nat) : ∀ c ∈ Nat.toDigits 10 n, Text.isDigit c = true := by
  induction n using Nat.base_induction 10 (by decide) with
  | single m hm =>
    rw [Nat.toDigits_of_lt_base hm]
    simpa using isDigit_digitChar m hm
  | digit m k hk hm ih =>
    rw [← Nat.toDigits_append_toDigits (by decide) hm hk, Nat.toDigits_of_lt_base hk]
    intro c hc
    rcases List.mem_append.1 hc with hleft | hlast
    · exact ih c hleft
    · rw [List.mem_singleton.1 hlast]
      exact isDigit_digitChar k hk

theorem eq_zero_of_head? (n : Nat) : (Nat.toDigits 10 n).head? = some '0' → n = 0 := by
  induction n using Nat.base_induction 10 (by decide) with
  | single m hm =>
    rw [Nat.toDigits_of_lt_base hm]
    exact fun h => eq_zero_of_digitChar m hm (Option.some.inj h)
  | digit m k hk hm ih =>
    obtain ⟨d, ds, hds⟩ := List.exists_cons_of_ne_nil (Nat.toDigits_ne_nil (n := m) (b := 10))
    rw [← Nat.toDigits_append_toDigits (by decide) hm hk]
    rw [hds] at ih ⊢
    exact fun h => absurd (ih h) (Nat.ne_of_gt hm)

theorem gather_append {k m : Nat} {ds : List Char} (more : List Char) (h : gather k ds = (m, [])) :
    gather k (ds ++ more) = gather m more := by
  induction ds generalizing k with
  | nil =>
    obtain rfl : k = m := congrArg Prod.fst h
    rfl
  | cons d ds ih =>
    rw [gather] at h
    rw [List.cons_append, gather]
    split at h
    next hfits =>
      rw [if_pos hfits]
      exact ih h
    next => cases congrArg Prod.snd h

theorem gather_toDigits (n : Nat) (hn : n < 2 ^ 64) : gather 0 (Nat.toDigits 10 n) = (n, []) := by
  have hone (k : Nat) {d : Nat} (hd : d < 10) (hfits : 10 * k + d < 2 ^ 64) :
      gather k [Nat.digitChar d] = (10 * k + d, []) := by
    have hmore : k * 10 + digitsValue [Nat.digitChar d] = 10 * k + d := by
      rw [digitsValue_digitChar d hd, Nat.mul_comm]
    simp only [gather, hmore]
    exact if_pos hfits
  induction n using Nat.base_induction 10 (by decide) with
  | single m hm =>
    rw [Nat.toDigits_of_lt_base hm, hone 0 hm (by omega), Nat.mul_zero, Nat.zero_add]
  | digit m k hk hm ih =>
    rw [← Nat.toDigits_append_toDigits (by decide) hm hk, Nat.toDigits_of_lt_base hk,
      gather_append _ (ih (by omega)), hone m hk hn]

theorem unsigned?_toDigits (negative : Bool) (n : Nat) :
    Numeral.unsigned? negative (Nat.toDigits 10 n) = some ⟨negative, Nat.toDigits 10 n, none, none⟩ := by
  have hall : ∀ c ∈ Nat.toDigits 10 n, Text.isDigit c = true := isDigit_of_mem_toDigits n
  have htake : (Nat.toDigits 10 n).takeWhile Text.isDigit = Nat.toDigits 10 n := List.takeWhile_eq_self_iff.2 hall
  have hdrop : (Nat.toDigits 10 n).dropWhile Text.isDigit = [] := List.dropWhile_eq_nil_iff.2 hall
  have hlead : ((Nat.toDigits 10 n).isEmpty || (decide ((Nat.toDigits 10 n).head? = some '0') &&
      decide ((Nat.toDigits 10 n).length ≠ 1))) = false := by
    have hsome : (Nat.toDigits 10 n).isEmpty = false := by simp [Nat.toDigits_ne_nil]
    rw [hsome, Bool.false_or]
    by_cases hhead : (Nat.toDigits 10 n).head? = some '0'
    · rw [eq_zero_of_head? n hhead]
      decide
    · simp [hhead]
  unfold Numeral.unsigned?
  simp only [htake, hdrop, hlead]
  rfl

theorem head_toDigits (n : Nat) : ∃ d ds, Nat.toDigits 10 n = d :: ds ∧ Text.isDigit d = true := by
  obtain ⟨d, ds, hds⟩ := List.exists_cons_of_ne_nil (Nat.toDigits_ne_nil (n := n) (b := 10))
  exact ⟨d, ds, hds, isDigit_of_mem_toDigits n d (hds ▸ List.mem_cons_self)⟩

theorem toList_decimal_ofNat (n : Nat) : (decimal (.ofNat n)).toList = Nat.toDigits 10 n := Nat.toList_repr

theorem toList_decimal_negSucc (n : Nat) :
    (decimal (.negSucc n)).toList = '-' :: Nat.toDigits 10 (n + 1) := by
  simp [decimal, Nat.toList_repr]

theorem read?_toDigits (n : Nat) :
    Numeral.read? (Nat.toDigits 10 n) = some ⟨false, Nat.toDigits 10 n, none, none⟩ := by
  obtain ⟨d, ds, hds, hd⟩ := head_toDigits n
  rw [← unsigned?_toDigits false n, hds]
  unfold Numeral.read?
  split
  next heq =>
    obtain rfl : d = '-' := (List.cons.inj heq).1
    cases hd
  next => rfl

theorem word?_of_read? {c : Char} {cs : List Char} {n : Numeral} (hc : c ≠ 't' ∧ c ≠ 'f' ∧ c ≠ 'n')
    (hread : Numeral.read? (c :: cs) = some n) : word? (c :: cs) = some n.value? := by
  obtain ⟨htrue, hfalse, hnull⟩ := hc
  simp [word?, htrue, hfalse, hnull, hread]

/-- An integer that fits into 64 bits is read back from its digits. -/
theorem word?_decimal {n : Int} (hlow : -2 ^ 63 ≤ n) (hhigh : n < 2 ^ 64) :
    word? (decimal n).toList = some (some (.integer n)) := by
  cases n with
  | ofNat n =>
    have hfits : (n : Int) < 2 ^ 64 := hhigh
    have hvalue : Numeral.value? ⟨false, Nat.toDigits 10 n, none, none⟩ = some (.integer n) := by
      unfold Numeral.value?
      rw [gather_toDigits n (by omega)]
      rfl
    have hread := read?_toDigits n
    obtain ⟨d, ds, hds, hd⟩ := head_toDigits n
    have hletter : d ≠ 't' ∧ d ≠ 'f' ∧ d ≠ 'n' := by
      refine ⟨?_, ?_, ?_⟩ <;> (rintro rfl; cases hd)
    rw [toList_decimal_ofNat]
    rw [hds] at hread hvalue ⊢
    rw [word?_of_read? hletter hread, hvalue]
    rfl
  | negSucc n =>
    have hfits : (decide (0 < n + 1) && decide (n + 1 ≤ Nat.pow 2 63)) = true := by
      have hbound : Nat.pow 2 63 = 2 ^ 63 := rfl
      rw [hbound, Bool.and_eq_true, decide_eq_true_iff, decide_eq_true_iff]
      omega
    have hvalue : Numeral.value? ⟨true, Nat.toDigits 10 (n + 1), none, none⟩ = some (.integer (.negSucc n)) := by
      unfold Numeral.value?
      rw [gather_toDigits (n + 1) (by omega)]
      simp only [List.isEmpty_nil, if_true, whole?, hfits]
      rfl
    have hread : Numeral.read? ('-' :: Nat.toDigits 10 (n + 1)) = _ := unsigned?_toDigits true (n + 1)
    rw [toList_decimal_negSucc, word?_of_read? (by decide) hread, hvalue]

theorem isWordChar_of_isDigit {c : Char} (h : Text.isDigit c = true) : isWordChar c = true := by
  have hdigit : c.isDigit = true := h
  simp [isWordChar, Char.isAlphanum, hdigit]

theorem isWordChar_decimal (n : Int) : ∀ c ∈ (decimal n).toList, isWordChar c = true := by
  cases n with
  | ofNat n =>
    rw [toList_decimal_ofNat]
    exact fun c hc => isWordChar_of_isDigit (isDigit_of_mem_toDigits n c hc)
  | negSucc n =>
    rw [toList_decimal_negSucc]
    intro c hc
    rcases List.mem_cons.1 hc with rfl | hdigit
    · decide
    · exact isWordChar_of_isDigit (isDigit_of_mem_toDigits (n + 1) c hdigit)

end IngressPlane.Json
