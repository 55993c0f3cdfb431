import IngressPlane.Certificate.Hostname
import IngressPlane.Proofs.Texts

/-! Which hosts a certificate is valid for. Names are compared label by label, and that comes to a comparison of
whole texts, without case and without dots at the end: a name stands for itself, and a star for one label in
front of the rest of the name (`verify_eq_ok_iff`). -/
namespace IngressPlane

open Text

namespace Text

theorem toLower_eq_iff {c d : Char} (hd : d.isAlpha = false) : c.toLower = d ↔ c = d := by
  unfold Char.toLower
  split
  next hc =>
    have hlower : 'a'.val ≤ c.val + ('a'.val - 'A'.val) ∧ c.val + ('a'.val - 'A'.val) ≤ 'z'.val := by
      simp [UInt32.le_iff_toNat_le] at hc ⊢
      omega
    constructor
    · rintro rfl
      have hletter := Bool.and_eq_true_iff.2 ⟨decide_eq_true hlower.1, decide_eq_true hlower.2⟩
      exact absurd (Bool.or_eq_false_iff.1 hd).2 (ne_true_of_eq_false · hletter)
    · rintro rfl
      exact absurd (Bool.or_eq_false_iff.1 hd).1 (ne_true_of_eq_false · (decide_eq_true hc))
  next => rfl

end Text

namespace Certificate

variable {name host : String} {ps hs : List (List Char)}

/-- A name as it is compared: without dots at the end, and in lower case. -/
def folded (name : String) : List Char := (dropTrailing (· = '.') name.toList).map Char.toLower

def foldedLabels (name : String) : List (List Char) := pieces '.' (folded name)

/-- Whether a name stands for a host: as the same name, or with a star in the place of the first label. -/
inductive StandsFor : List Char → List Char → Prop
  | same (host : List Char) : StandsFor host host
  | star {label rest : List Char} (hrest : rest = [] ∨ ∃ more, rest = '.' :: more) (hlabel : label ≠ [])
      (hdot : '.' ∉ label) : StandsFor ('*' :: rest) (label ++ rest)

def LabelsStandFor (ps hs : List (List Char)) : Prop :=
  ∃ p h rest, ps = p :: rest ∧ hs = h :: rest ∧ (p = h ∨ p = ['*'] ∧ h ≠ [])

theorem standsFor_iff {p h : List Char} : StandsFor p h ↔ LabelsStandFor (pieces '.' p) (pieces '.' h) := by
  constructor
  · intro hstands
    cases hstands with
    | same =>
      obtain ⟨first, rest, hpieces⟩ := List.exists_cons_of_ne_nil (pieces_ne_nil '.' p)
      exact ⟨first, first, rest, hpieces, hpieces, .inl rfl⟩
    | @star label rest hrest hlabel hdot =>
      rcases hrest with rfl | ⟨more, rfl⟩
      · exact ⟨['*'], label, [], rfl, by rw [List.append_nil, pieces_of_notMem hdot], .inr ⟨rfl, hlabel⟩⟩
      · refine ⟨['*'], label, pieces '.' more, pieces_append '.' ['*'] more, ?_, .inr ⟨rfl, hlabel⟩⟩
        rw [pieces_append, pieces_of_notMem hdot]
        rfl
  · rintro ⟨first, label, rest, hp, hh, rfl | ⟨rfl, hlabel⟩⟩
    · rw [pieces_inj.1 (hp.trans hh.symm)]
      exact .same h
    · have hdot : '.' ∉ label := notMem_of_mem_pieces (hh ▸ List.mem_cons_self)
      rw [← intercalate_pieces '.' p, ← intercalate_pieces '.' h, hp, hh]
      cases rest with
      | nil => simpa using StandsFor.star (.inl rfl) hlabel hdot
      | cons next rest =>
        rw [List.intercalate_cons_cons, List.intercalate_cons_cons, List.append_assoc, List.append_assoc]
        exact .star (.inr ⟨_, rfl⟩) hlabel hdot

theorem lowered_eq_star {label : List Char} : label.map Char.toLower = ['*'] ↔ label = ['*'] := by
  rw [List.map_eq_singleton_iff]
  constructor
  · rintro ⟨c, rfl, hc⟩
    rw [(toLower_eq_iff (by decide)).1 hc]
  · rintro rfl
    exact ⟨'*', rfl, by decide⟩

theorem all_sameLabel_iff : (ps.length = hs.length ∧ ((ps.zip hs).all fun (a, b) => sameLabel a b) = true) ↔
    ps.map (·.map Char.toLower) = hs.map (·.map Char.toLower) := by
  induction ps generalizing hs with
  | nil => cases hs <;> simp
  | cons p ps ih =>
    cases hs with
    | nil => simp
    | cons h hs =>
      simp only [List.length_cons, Nat.add_right_cancel_iff, List.zip_cons_cons, List.all_cons,
        Bool.and_eq_true, sameLabel, beq_iff_eq, List.map_cons, List.cons.injEq, ← ih]
      exact and_left_comm

theorem labelsMatch_cons {p h : List Char} : labelsMatch (p :: ps) (h :: hs) = true ↔
    ps.map (·.map Char.toLower) = hs.map (·.map Char.toLower) ∧
      (p.map Char.toLower = h.map Char.toLower ∨ p = ['*'] ∧ h ≠ []) := by
  rw [← all_sameLabel_iff, and_right_comm, or_comm]
  simp only [labelsMatch, sameLabel, Bool.and_eq_true, Bool.or_eq_true, beq_iff_eq, Bool.not_eq_true',
    List.isEmpty_eq_false_iff]

theorem labelsMatch_iff : labelsMatch ps hs = true ↔
    LabelsStandFor (ps.map (·.map Char.toLower)) (hs.map (·.map Char.toLower)) := by
  unfold LabelsStandFor
  cases ps with
  | nil => simp [labelsMatch]
  | cons p ps =>
    cases hs with
    | nil => simp [labelsMatch]
    | cons h hs =>
      rw [labelsMatch_cons]
      simp only [List.map_cons, List.cons.injEq]
      constructor
      · rintro ⟨hrest, hfirst⟩
        refine ⟨_, _, _, ⟨rfl, hrest⟩, ⟨rfl, rfl⟩, hfirst.imp_right fun ⟨hstar, hlabel⟩ => ?_⟩
        exact ⟨lowered_eq_star.2 hstar, by simpa using hlabel⟩
      · rintro ⟨_, _, _, ⟨rfl, hrest⟩, ⟨rfl, rfl⟩, hfirst⟩
        refine ⟨hrest, hfirst.imp_right fun ⟨hstar, hlabel⟩ => ?_⟩
        exact ⟨lowered_eq_star.1 hstar, by simpa using hlabel⟩

theorem labels?_eq (name : String) : labels? name =
    if folded name = [] then none else some (pieces '.' (dropTrailing (· = '.') name.toList)) := by
  unfold labels? folded
  simp

/-- A name matches a host exactly if it stands for it. -/
theorem nameMatches_iff : nameMatches name host = true ↔
    folded name ≠ [] ∧ folded host ≠ [] ∧ StandsFor (folded name) (folded host) := by
  have hlabels (name : String) : pieces '.' (folded name) =
      (pieces '.' (dropTrailing (· = '.') name.toList)).map (·.map Char.toLower) :=
    pieces_map (fun _ => toLower_eq_iff (by decide)) _
  unfold nameMatches
  rw [labels?_eq, labels?_eq, standsFor_iff, hlabels, hlabels, ← labelsMatch_iff]
  by_cases hname : folded name = []
  · simp [hname]
  · by_cases hhost : folded host = [] <;> simp [hname, hhost]

/-- Whether a certificate is for a name: one of its DNS names or, where that is wanted, its common name. -/
def IsFor (c : Certificate) (withCommonName : Bool) (name : String) : Prop :=
  name ∈ c.dnsNames ∨ withCommonName = true ∧ c.commonName ≠ "" ∧ name = c.commonName

theorem verify_eq_ok (c : Certificate) (withCommonName : Bool)
    (haddress : Address.read? (unbracketed host) = none) :
    c.verify host withCommonName = .ok () ↔
      ∃ name, c.IsFor withCommonName name ∧ nameMatches name host = true := by
  obtain ⟨names, hnames, hfor⟩ : ∃ names, names = (if withCommonName && c.commonName ≠ "" then
      c.dnsNames ++ [c.commonName] else c.dnsNames) ∧ ∀ name, name ∈ names ↔ c.IsFor withCommonName name := by
    refine ⟨_, rfl, fun name => ?_⟩
    unfold IsFor
    by_cases hcommon : withCommonName = true ∧ c.commonName ≠ ""
    · rw [if_pos (by simpa using hcommon), List.mem_append, List.mem_singleton]
      simp [hcommon]
    · rw [if_neg (by simpa using hcommon)]
      simp [← and_assoc, hcommon]
  have hany : names.any (nameMatches · host) = true ↔
      ∃ name, c.IsFor withCommonName name ∧ nameMatches name host = true := by
    simp only [List.any_eq_true, hfor]
  rw [← hany, verify, haddress]
  dsimp only
  rw [← hnames]
  cases names with
  | nil => simp
  | cons name names => cases (name :: names).any (nameMatches · host) <;> simp

/-- A certificate is valid for a host that is no address exactly if some name that it is for stands for the host.
A name has as many labels as the hosts that it stands for, and the same ones but for the first, so a star does not
stand for no label, for several ones or for an inner one. -/
theorem verify_eq_ok_iff (c : Certificate) (host : String) (withCommonName : Bool)
    (haddress : Address.read? (unbracketed host) = none) :
    (c.verify host withCommonName = .ok () ↔ ∃ name, c.IsFor withCommonName name ∧
      folded name ≠ [] ∧ folded host ≠ [] ∧ StandsFor (folded name) (folded host)) ∧
    ∀ name, StandsFor (folded name) (folded host) →
      (foldedLabels name).length = (foldedLabels host).length ∧
        (foldedLabels name).tail = (foldedLabels host).tail := by
  constructor
  · rw [verify_eq_ok c withCommonName haddress]
    simp only [nameMatches_iff]
  · intro name hstands
    obtain ⟨p, h, rest, hname, hhost, _⟩ := standsFor_iff.1 hstands
    unfold foldedLabels
    rw [hname, hhost]
    exact ⟨rfl, rfl⟩

/-- A certificate with a wildcard is valid for a host one label below, and not for the domain itself. -/
theorem verify_eq_ok_iff_of_wildcard :
    let c : Certificate := { dnsNames := ["*.Example.com"] }
    c.verify "www.example.COM." false = .ok () ∧ c.verify "example.com" false ≠ .ok () := by
  intro c
  have hname : Address.read? (unbracketed "www.example.COM.") = none := by decide
  have hdomain : Address.read? (unbracketed "example.com") = none := by decide
  refine ⟨(verify_eq_ok_iff c _ false hname).1.2 ?_, fun hok => ?_⟩
  · refine ⟨"*.Example.com", .inl (by decide), by decide, by decide, ?_⟩
    have hstar : StandsFor ('*' :: ".example.com".toList) ("www".toList ++ ".example.com".toList) :=
      .star (.inr ⟨_, rfl⟩) (by decide) (by decide)
    exact hstar
  · obtain ⟨hverify, hlabels⟩ := verify_eq_ok_iff c _ false hdomain
    obtain ⟨name, hfor, _, _, hstands⟩ := hverify.1 hok
    obtain rfl : name = "*.Example.com" := by simpa [IsFor, c] using hfor
    exact absurd (hlabels _ hstands).1 (by decide)

end Certificate
end IngressPlane
