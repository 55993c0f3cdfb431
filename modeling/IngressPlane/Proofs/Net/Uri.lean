import Mathlib.Data.List.TakeWhile
import IngressPlane.Net.Uri

/-! What an absolute URI is made of: a scheme, an authority, and a path with a query (`isAbsolute_iff`). The
authority goes as far as it can, as nothing in it ends one. -/
namespace IngressPlane.Uri

variable {s : String} {cs name scheme authority rest : List Char}

structure Parts (s : String) (scheme authority rest : List Char) : Prop where
  text : s.toList = scheme ++ "://".toList ++ authority ++ rest
  isScheme : ∀ c ∈ scheme, isSchemeChar c
  length_scheme : scheme.length ≤ maxSchemeLength
  isAuthority : isAuthority authority
  /-- The authority goes as far as it can. -/
  ended : ∀ c ∈ rest.head?, endsAuthority c
  isPathAndQuery : isPathAndQuery rest

theorem scheme?_eq_some_iff : scheme? cs = some (name, rest) ↔
    cs = name ++ "://".toList ++ rest ∧ (∀ c ∈ name, isSchemeChar c) ∧ name.length ≤ maxSchemeLength := by
  have hmark : "://".toList = [':', '/', '/'] := rfl
  rw [hmark, List.append_assoc]
  constructor
  · intro h
    unfold scheme? at h
    dsimp only at h
    split at h
    next after hafter =>
      split at h
      next hlength =>
        cases h
        have hboth := List.takeWhile_append_dropWhile (p := isSchemeChar) (l := cs)
        rw [hafter] at hboth
        exact ⟨hboth.symm, fun c hc => List.mem_takeWhile_imp hc, hlength⟩
      next => cases h
    next => cases h
  · rintro ⟨rfl, hname, hlength⟩
    have htake : (name ++ ([':', '/', '/'] ++ rest)).takeWhile isSchemeChar = name := by
      rw [List.takeWhile_append_of_pos hname]
      exact List.append_nil name
    have hdrop : (name ++ ([':', '/', '/'] ++ rest)).dropWhile isSchemeChar = ':' :: '/' :: '/' :: rest := by
      rw [List.dropWhile_append_of_pos hname]
      rfl
    unfold scheme?
    rw [htake, hdrop]
    exact if_pos hlength

/-- What an authority is made of: its own characters, and those that divide its parts. -/
def isAuthorityMark (c : Char) : Bool := isAuthorityChar c || [':', '[', ']', '@', '%'].contains c

theorem Authority.isAuthorityMark_of_step {a b : Authority} {c : Char} (h : a.step c = some b) :
    isAuthorityMark c := by
  unfold isAuthorityMark
  rw [Bool.or_eq_true, List.contains_iff_mem]
  unfold Authority.step at h
  by_cases hmark : c ∈ [':', '[', ']', '@', '%']
  · exact .inr hmark
  · simp only [List.mem_cons, List.not_mem_nil, or_false, not_or] at hmark
    obtain ⟨hcolon, hopen, hclose, hat, hpercent⟩ := hmark
    simp only [hcolon, hopen, hclose, hat, hpercent, if_false] at h
    split at h
    next hchar => exact .inl hchar
    next => cases h

theorem Authority.isAuthorityMark_of_run {a b : Authority} (h : cs.foldlM Authority.step a = some b) :
    ∀ c ∈ cs, isAuthorityMark c := by
  induction cs generalizing a with
  | nil => exact fun c hc => absurd hc List.not_mem_nil
  | cons c cs ih =>
    rw [List.foldlM_cons] at h
    obtain ⟨next, hstep, hrun⟩ := Option.bind_eq_some_iff.1 h
    exact List.forall_mem_cons.2 ⟨isAuthorityMark_of_step hstep, ih hrun⟩

theorem isAuthorityMark_of_mem (h : isAuthority cs) : ∀ c ∈ cs, isAuthorityMark c := by
  unfold isAuthority at h
  split at h
  next => cases h
  next a ha => exact Authority.isAuthorityMark_of_run ha

theorem not_endsAuthority {c : Char} (h : isAuthorityMark c) : endsAuthority c = false := by
  have hend (e : Char) (he : isAuthorityMark e = false) : c ≠ e := fun heq => by
    rw [heq, he] at h
    cases h
  simp [endsAuthority, hend '/' (by decide), hend '?' (by decide), hend '#' (by decide)]

namespace Parts

theorem takeWhile_eq (h : Parts s scheme authority rest) :
    (authority ++ rest).takeWhile (!endsAuthority ·) = authority := by
  have hinside : ∀ c ∈ authority, (!endsAuthority c) = true := fun c hc => by
    rw [not_endsAuthority (isAuthorityMark_of_mem h.isAuthority c hc)]
    rfl
  rw [List.takeWhile_append_of_pos hinside]
  cases rest with
  | nil => exact List.append_nil authority
  | cons c rest => rw [List.takeWhile_cons_of_neg (by simpa using h.ended c rfl), List.append_nil]

theorem dropWhile_eq (h : Parts s scheme authority rest) :
    (authority ++ rest).dropWhile (!endsAuthority ·) = rest := by
  have hboth := List.takeWhile_append_dropWhile (p := (!endsAuthority ·)) (l := authority ++ rest)
  rw [h.takeWhile_eq] at hboth
  exact List.append_cancel_left hboth

end Parts

/-- A URI is absolute exactly if it is made of the parts of one, and not too long. -/
theorem isAbsolute_iff : isAbsolute s ↔
    s.utf8ByteSize ≤ maxBytes ∧ ∃ scheme authority rest, Parts s scheme authority rest := by
  unfold isAbsolute
  rw [Bool.and_eq_true, decide_eq_true_iff]
  refine and_congr_right fun _ => ?_
  constructor
  · intro h
    split at h
    next => cases h
    next scheme rest hscheme =>
      obtain ⟨htext, hname, hlength⟩ := scheme?_eq_some_iff.1 hscheme
      obtain ⟨hauthority, hpath⟩ := Bool.and_eq_true_iff.1 h
      refine ⟨scheme, _, _, ⟨?_, hname, hlength, hauthority, fun c hc => ?_, hpath⟩⟩
      · rw [htext, List.append_assoc _ _ (List.dropWhile _ rest), List.takeWhile_append_dropWhile]
      · have hnot := List.head?_dropWhile_not (!endsAuthority ·) rest
        rw [hc] at hnot
        simpa using hnot
  · rintro ⟨scheme, authority, rest, h⟩
    have hscheme : scheme? s.toList = some (scheme, authority ++ rest) :=
      scheme?_eq_some_iff.2 ⟨by rw [h.text, List.append_assoc], h.isScheme, h.length_scheme⟩
    rw [hscheme]
    dsimp only
    rw [h.takeWhile_eq, h.dropWhile_eq, h.isAuthority, h.isPathAndQuery]
    rfl

end IngressPlane.Uri
