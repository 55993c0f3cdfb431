import IngressPlane.Policy.Extract
import IngressPlane.Proofs.Net.Uri
import IngressPlane.Proofs.Policy.Reader
import IngressPlane.Proofs.Results
import IngressPlane.Proofs.Tables
import IngressPlane.Proofs.Text.Items

/-! What can be said of an extracted policy whatever the annotations say (`Policy.extract_wellFormed`): texts that
reach the configuration have only the characters that they may have. Each reading gives such a value or none, and
what stands for none is such a value, too. -/
namespace IngressPlane

open Text

variable {r : AnnotationReader}

/-- A redirect to nowhere, or to an absolute URL under one of the redirect codes. -/
inductive Redirection.WellFormed (redirect : Redirection) : Prop
  | nowhere (hurl : redirect.url = "") (hcode : redirect.code = 0)
  | toUrl (habsolute : Uri.isAbsolute redirect.url)
      (hparts : ∃ scheme authority rest, Uri.Parts redirect.url scheme authority rest)
      (hfirst : 300 ≤ redirect.code) (hlast : redirect.code ≤ 308)

structure CipherPolicy.WellFormed (policy : CipherPolicy) : Prop where
  ciphers : ∀ c ∈ policy.ciphers.toList, c.isAlpha ∨ c.isDigit ∨ c ∈ ['+', ':', '_', '-', '!']
  preference : policy.preferServerCiphers ∈ ["", "on", "off"]

structure AffinityPolicy.WellFormed (policy : AffinityPolicy) : Prop where
  expires : ∀ c ∈ policy.cookie.expires.toList, c.isDigit
  maxAge : ∀ c ∈ policy.cookie.maxAge.toList, c.isDigit
  unset : policy.kind ≠ "cookie" → policy.cookie.expires = "" ∧ policy.cookie.maxAge = ""

/-- Names in ascending order, each one as it stands in a comma-separated list. -/
structure AreAliases (names : List String) : Prop where
  ascending : names.Pairwise (· < ·)
  isAlias : ∀ name ∈ names, name ≠ "" ∧ IsTrimmed name ∧ ',' ∉ name.toList

structure Policy.WellFormed (policy : Policy) : Prop where
  protocol : policy.backendProtocol ∈ ["AUTO_HTTP", "HTTP", "HTTPS", "AJP", "GRPC", "GRPCS", "FCGI"]
  ciphers : policy.ciphers.WellFormed
  affinity : policy.affinity.WellFormed
  redirect : policy.redirect.WellFormed
  aliases : AreAliases policy.aliases

namespace Redirection

theorem checked_eq_ok_iff {name url checkedUrl : String} :
    checked r name url = .ok checkedUrl ↔ Uri.isAbsolute url ∧ checkedUrl = url := by
  unfold checked
  cases Uri.isAbsolute url with
  | false => simp
  | true => simp [eq_comm]

theorem permanentCode_bounds (r : AnnotationReader) : 300 ≤ permanentCode r ∧ permanentCode r ≤ 308 := by
  unfold permanentCode
  split
  next code _ =>
    split
    next hcode =>
      simp only [Bool.and_eq_true, decide_eq_true_iff, Int32.le_iff_toInt_le] at hcode
      obtain ⟨hfirst, hlast⟩ : 300 ≤ code.toInt ∧ code.toInt ≤ 308 := hcode
      have hnat : (UInt16.ofNat code.toInt.toNat).toNat = code.toInt.toNat :=
        UInt16.toNat_ofNat_of_lt' (by simp only [UInt16.size]; omega)
      have h300 : (300 : UInt16).toNat = 300 := rfl
      have h308 : (308 : UInt16).toNat = 308 := rfl
      rw [UInt16.le_iff_toNat_le, UInt16.le_iff_toNat_le, hnat, h300, h308]
      omega
    next => decide
  next => decide

theorem wellFormed_of_checked {name url checkedUrl : String} (h : checked r name url = .ok checkedUrl)
    {code : UInt16} (hfirst : 300 ≤ code) (hlast : code ≤ 308) (fromToWww : Bool) :
    WellFormed { url := checkedUrl, code, fromToWww } := by
  obtain ⟨habsolute, rfl⟩ := checked_eq_ok_iff.1 h
  exact .toUrl habsolute (Uri.isAbsolute_iff.1 habsolute).2 hfirst hlast

theorem wellFormed_read {redirect : Redirection} (h : read r = .ok redirect) : redirect.WellFormed := by
  unfold read at h
  dsimp only at h
  split at h
  next =>
    obtain ⟨url, hchecked, hurl⟩ := bind_eq_ok_iff.1 h
    cases hurl
    exact wellFormed_of_checked hchecked (by decide) (by decide) _
  next =>
    split at h
    next =>
      obtain ⟨url, hchecked, hurl⟩ := bind_eq_ok_iff.1 h
      cases hurl
      obtain ⟨hfirst, hlast⟩ := permanentCode_bounds r
      exact wellFormed_of_checked hchecked hfirst hlast _
    next =>
      split at h
      next => cases h; exact .nowhere rfl rfl
      next => cases h

end Redirection

namespace CipherPolicy

theorem isCipherChar_iff {c : Char} :
    isCipherChar c ↔ c.isAlpha ∨ c.isDigit ∨ c ∈ ['+', ':', '_', '-', '!'] := by
  simp [isCipherChar, Char.isAlphanum, or_assoc]

theorem preference_mem (r : AnnotationReader) : preference r ∈ ["", "on", "off"] := by
  unfold preference
  split <;> simp

theorem wellFormed_read {policy : CipherPolicy} (h : read r = .ok policy) : policy.WellFormed := by
  unfold read at h
  dsimp only at h
  split at h
  next ciphers _ =>
    split at h
    next hall =>
      cases h
      exact ⟨fun c hc => isCipherChar_iff.1 (List.all_eq_true.1 hall c hc), preference_mem r⟩
    next => cases h
  next =>
    split at h
    next => cases h
    next => cases h; exact ⟨fun _ hc => absurd hc List.not_mem_nil, preference_mem r⟩

end CipherPolicy

theorem AffinityCookie.isDigit_of_mem_duration {name : String} {c : Char} (h : c ∈ (duration r name).toList) :
    c.isDigit := by
  unfold duration at h
  dsimp only at h
  split at h
  next hall => exact List.all_eq_true.1 hall c h
  next => exact absurd h List.not_mem_nil

theorem AffinityPolicy.wellFormed_read (r : AnnotationReader) : (read r).WellFormed := by
  have hcookie : (read r).cookie = if (read r).kind = "cookie" then .read r else {} := rfl
  by_cases hkind : (read r).kind = "cookie"
  · rw [if_pos hkind] at hcookie
    refine ⟨fun c hc => ?_, fun c hc => ?_, fun hne => absurd hkind hne⟩
    · rw [hcookie] at hc
      exact AffinityCookie.isDigit_of_mem_duration hc
    · rw [hcookie] at hc
      exact AffinityCookie.isDigit_of_mem_duration hc
  · rw [if_neg hkind] at hcookie
    refine ⟨fun c hc => ?_, fun c hc => ?_, fun _ => ?_⟩
    · rw [hcookie] at hc
      exact absurd hc List.not_mem_nil
    · rw [hcookie] at hc
      exact absurd hc List.not_mem_nil
    · rw [hcookie]
      exact ⟨rfl, rfl⟩

namespace Policy

theorem orDefault_of {α : Type} {P : α → Prop} {fallback : α} {reading : Except ReadFailure α} (hfallback : P fallback)
    (hread : ∀ a, reading = .ok a → P a) : P (orDefault fallback reading) := by
  cases reading with
  | ok a => exact hread a rfl
  | error _ => exact hfallback

theorem readProtocol_mem (r : AnnotationReader) : readProtocol r ∈ protocols := by
  unfold readProtocol
  dsimp only
  split
  next hknown => exact List.contains_iff_mem.1 hknown
  next => decide

theorem areAliases_readAliases {names : List String} (h : readAliases r = .ok names) : AreAliases names := by
  unfold readAliases AnnotationReader.list at h
  cases htext : r.string "server-alias" with
  | error _ =>
    rw [htext] at h
    cases h
  | ok text =>
    rw [htext] at h
    cases h
    refine ⟨pairwise_ascending _, fun name hname => ?_⟩
    have hitem : name ∈ listItems text := mem_ascending.1 hname
    obtain ⟨hne, piece, _, rfl⟩ := mem_listItems.1 hitem
    exact ⟨hne, isTrimmed_trim piece, notMem_of_mem_listItems hitem⟩

/-- Whatever the annotations say, the extracted policy is well-formed. -/
theorem extract_wellFormed (store : Store) (owner : ObjectMeta) : (extract store owner).WellFormed := by
  unfold extract
  constructor <;> dsimp only
  case protocol => exact readProtocol_mem _
  case ciphers =>
    exact orDefault_of ⟨fun _ hc => absurd hc List.not_mem_nil, List.mem_cons_self⟩ fun _ =>
      CipherPolicy.wellFormed_read
  case affinity => exact AffinityPolicy.wellFormed_read _
  case redirect => exact orDefault_of (.nowhere rfl rfl) fun _ => Redirection.wellFormed_read
  case aliases =>
    exact orDefault_of ⟨.nil, fun _ hname => absurd hname List.not_mem_nil⟩ fun _ => areAliases_readAliases

/-- A protocol in other letters, an alias that is there twice and a code that is none. -/
example :
    let owner : ObjectMeta := {
      annotations := some (.ofList [("nginx.ingress.kubernetes.io/backend-protocol", " grpcs "),
        ("nginx.ingress.kubernetes.io/server-alias", "b.com, ,a.com,b.com "),
        ("nginx.ingress.kubernetes.io/permanent-redirect", "https://a.com/b"),
        ("nginx.ingress.kubernetes.io/permanent-redirect-code", "404")]) }
    let policy := extract (.withOptions {}) owner
    policy.backendProtocol = "GRPCS" ∧ policy.aliases = ["a.com", "b.com"] ∧
      policy.redirect = { url := "https://a.com/b", code := 301 } := by decide +kernel

end Policy
end IngressPlane
