import IngressPlane.Proofs.Encoding.Sha256
import IngressPlane.Proofs.Texts
import IngressPlane.Routing.Settings

/-! What the checksum of settings is taken of. Each text comes behind its length, so the encoding can be read from
the front: two flags and three texts, whatever bytes are in them (`lengthPrefixed_append_inj`). Settings with the
same checksum are the same but for the checksums that they had before, or are a collision of the digest
(`checksum_eq_iff`). -/
namespace IngressPlane.Settings

open Text

variable {a b : Settings} {s t : String} {rest rest' : List UInt8}

theorem flagByte_inj {x y : Bool} : flagByte x = flagByte y ↔ x = y := by
  cases x <;> cases y <;> decide

/-- A text and what follows it are read off behind the length of the text. -/
theorem lengthPrefixed_append_inj (hs : s.utf8ByteSize < 2 ^ 64) (ht : t.utf8ByteSize < 2 ^ 64) :
    lengthPrefixed s ++ rest = lengthPrefixed t ++ rest' ↔ s = t ∧ rest = rest' := by
  refine ⟨fun h => ?_, fun ⟨htext, hrest⟩ => by rw [htext, hrest]⟩
  unfold lengthPrefixed at h
  rw [List.append_assoc, List.append_assoc] at h
  obtain ⟨hfield, htail⟩ := List.append_inj h (by simp)
  have hlength : (utf8Bytes s).length = (utf8Bytes t).length := by
    have hmod := Sha256.bigEndian_eq_iff.1 hfield
    rw [length_utf8Bytes, length_utf8Bytes] at hmod ⊢
    omega
  obtain ⟨hbytes, hrest⟩ := List.append_inj htail hlength
  exact ⟨utf8Bytes_inj.1 hbytes, hrest⟩

def texts (s : Settings) : List String := [s.wordBlocklist, s.rateLimitHost, s.loadBalancing]

/-- Whether settings are the same but for their checksums. -/
def SamePolicy (a b : Settings) : Prop :=
  a.allowSnippets = b.allowSnippets ∧ a.wordBlocklist = b.wordBlocklist ∧ a.rateLimitHost = b.rateLimitHost ∧
    a.loadBalancing = b.loadBalancing ∧ a.defaultBackendAccessLog = b.defaultBackendAccessLog

theorem checksumInput_eq (s : Settings) : s.checksumInput = flagByte s.allowSnippets ::
    (lengthPrefixed s.wordBlocklist ++ (lengthPrefixed s.rateLimitHost ++
      (lengthPrefixed s.loadBalancing ++ [flagByte s.defaultBackendAccessLog]))) := by
  simp [checksumInput]

theorem checksumInput_eq_iff (ha : ∀ text ∈ a.texts, text.utf8ByteSize < 2 ^ 64)
    (hb : ∀ text ∈ b.texts, text.utf8ByteSize < 2 ^ 64) : a.checksumInput = b.checksumInput ↔ a.SamePolicy b := by
  simp only [texts, List.forall_mem_cons] at ha hb
  obtain ⟨hwords, hhost, hbalancing, -⟩ := ha
  obtain ⟨hwords', hhost', hbalancing', -⟩ := hb
  rw [checksumInput_eq, checksumInput_eq, List.cons.injEq, flagByte_inj, lengthPrefixed_append_inj hwords hwords',
    lengthPrefixed_append_inj hhost hhost', lengthPrefixed_append_inj hbalancing hbalancing', List.singleton_inj,
    flagByte_inj, SamePolicy]

/-- No change of the policy hides behind an equal checksum, if the digest has no collision there: what is digested
shows all flags and texts. The checksum from before is not digested, so it can be taken again. -/
theorem checksum_eq_iff (ha : ∀ text ∈ a.texts, text.utf8ByteSize < 2 ^ 64)
    (hb : ∀ text ∈ b.texts, text.utf8ByteSize < 2 ^ 64) :
    (a.checksumInput = b.checksumInput ↔ a.SamePolicy b) ∧
      (a.withChecksum.checksum = b.withChecksum.checksum ↔
        a.SamePolicy b ∨ Sha256.Collide a.checksumInput b.checksumInput) ∧
      a.withChecksum.withChecksum = a.withChecksum := by
  have hinput := checksumInput_eq_iff ha hb
  refine ⟨hinput, ?_, rfl⟩
  rw [← hinput]
  exact Sha256.hex_digest_eq_iff

/-- The same eight zero bytes, which could be a length, in one text and in the other. -/
theorem checksum_eq_iff_of_zeros :
    let zeros := "\x00\x00\x00\x00\x00\x00\x00\x00"
    let words : Settings := { wordBlocklist := zeros }
    let host : Settings := { rateLimitHost := zeros }
    words.checksumInput.length = host.checksumInput.length ∧ words.checksumInput ≠ host.checksumInput := by
  intro zeros words host
  refine ⟨by decide +kernel, fun h => ?_⟩
  have hsame := (checksum_eq_iff (a := words) (b := host) (by decide) (by decide)).1.1 h
  exact absurd hsame.2.1 (by decide)

end IngressPlane.Settings
