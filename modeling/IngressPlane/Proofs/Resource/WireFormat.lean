import IngressPlane.Proofs.Json.Decode
import IngressPlane.Proofs.Json.RoundTrip
import IngressPlane.Proofs.Texts
import IngressPlane.Resource.Ingress

/-! The specification of an ingress on the wire. Part by part, what is written is plain, so its text can be read, and
is decoded to what it was written for: an option that is unset has no member, and one that is set has a member that
is not `null`, be it empty or not (`IngressSpec.decode_toJson`). -/
namespace IngressPlane

open Json (ReadsBack PlainMembers optional_eq_ok orElse_eq_ok readsBack_string readsBack_strings readsBack_int32)

section Reading
open Json.Decoder

theorem readsBack_portRef : ReadsBack PortRef.toJson portRef where
  read p := by
    refine bind_eq_ok rfl ?_
    refine bind_eq_ok (optional_eq_ok (o := p.name) readsBack_string (by simp)) ?_
    exact bind_eq_ok (optional_eq_ok (o := p.number) readsBack_int32 (by simp)) rfl
  set _ := nofun

theorem readsBack_serviceRef : ReadsBack ServiceRef.toJson serviceRef where
  read s := by
    refine bind_eq_ok rfl ?_
    refine bind_eq_ok (orElse_eq_ok (x := s.name) readsBack_string (by simp)) ?_
    exact bind_eq_ok (optional_eq_ok (o := s.port) readsBack_portRef (by simp)) rfl
  set _ := nofun

theorem readsBack_objectRef : ReadsBack ObjectRef.toJson objectRef where
  read r := by
    refine bind_eq_ok rfl ?_
    refine bind_eq_ok (optional_eq_ok (o := r.apiGroup) readsBack_string (by simp)) ?_
    refine bind_eq_ok (orElse_eq_ok (x := r.kind) readsBack_string (by simp)) ?_
    exact bind_eq_ok (orElse_eq_ok (x := r.name) readsBack_string (by simp)) rfl
  set _ := nofun

theorem readsBack_backendRef : ReadsBack BackendRef.toJson backendRef where
  read b := by
    refine bind_eq_ok rfl ?_
    refine bind_eq_ok (optional_eq_ok (o := b.resource) readsBack_objectRef (by simp)) ?_
    exact bind_eq_ok (optional_eq_ok (o := b.service) readsBack_serviceRef (by simp)) rfl
  set _ := nofun

theorem readsBack_pathRule : ReadsBack PathRule.toJson pathRule where
  read p := by
    refine bind_eq_ok rfl ?_
    refine bind_eq_ok (orElse_eq_ok (x := p.backend) readsBack_backendRef (by simp)) ?_
    refine bind_eq_ok (optional_eq_ok (o := p.path) readsBack_string (by simp)) ?_
    exact bind_eq_ok (orElse_eq_ok (x := p.pathType) readsBack_string (by simp)) rfl
  set _ := nofun

theorem readsBack_httpRule : ReadsBack HttpRule.toJson httpRule where
  read h := by
    refine bind_eq_ok rfl ?_
    exact bind_eq_ok (orElse_eq_ok (x := h.paths) readsBack_pathRule.list (by simp)) rfl
  set _ := nofun

theorem readsBack_hostRule : ReadsBack HostRule.toJson hostRule where
  read r := by
    refine bind_eq_ok rfl ?_
    refine bind_eq_ok (optional_eq_ok (o := r.host) readsBack_string (by simp)) ?_
    exact bind_eq_ok (optional_eq_ok (o := r.http) readsBack_httpRule (by simp)) rfl
  set _ := nofun

theorem readsBack_tlsEntry : ReadsBack TlsEntry.toJson tlsEntry where
  read t := by
    refine bind_eq_ok rfl ?_
    refine bind_eq_ok (optional_eq_ok (o := t.hosts) readsBack_strings (by simp)) ?_
    exact bind_eq_ok (optional_eq_ok (o := t.secretName) readsBack_string (by simp)) rfl
  set _ := nofun

theorem readsBack_ingressSpec : ReadsBack IngressSpec.toJson ingressSpec where
  read s := by
    refine bind_eq_ok rfl ?_
    refine bind_eq_ok (optional_eq_ok (o := s.defaultBackend) readsBack_backendRef (by simp)) ?_
    refine bind_eq_ok (optional_eq_ok (o := s.className) readsBack_string (by simp)) ?_
    refine bind_eq_ok (optional_eq_ok (o := s.rules) readsBack_hostRule.list (by simp)) ?_
    exact bind_eq_ok (optional_eq_ok (o := s.tls) readsBack_tlsEntry.list (by simp)) rfl
  set _ := nofun

end Reading

section Writing
variable {depth : Nat}

@[simp] theorem PortRef.plain_toJson (p : PortRef) : p.toJson.Plain (depth + 1) :=
  PlainMembers.object (.append (.member? Json.plain_string p.name) (.member? Json.plain_int32 p.number)) (by decide)

@[simp] theorem ServiceRef.plain_toJson (s : ServiceRef) : s.toJson.Plain (depth + 2) :=
  PlainMembers.object (.cons .string (.member? PortRef.plain_toJson s.port)) (by decide)

@[simp] theorem ObjectRef.plain_toJson (r : ObjectRef) : r.toJson.Plain (depth + 1) :=
  PlainMembers.object (.append (.member? Json.plain_string r.apiGroup) (.cons .string (.cons .string .nil)))
    (by decide)

@[simp] theorem BackendRef.plain_toJson (b : BackendRef) : b.toJson.Plain (depth + 3) :=
  PlainMembers.object
    (.append (.member? ObjectRef.plain_toJson b.resource) (.member? ServiceRef.plain_toJson b.service)) (by decide)

@[simp] theorem PathRule.plain_toJson (p : PathRule) : p.toJson.Plain (depth + 4) :=
  PlainMembers.object
    (.append (.cons p.backend.plain_toJson (.member? Json.plain_string p.path)) (.cons .string .nil)) (by decide)

@[simp] theorem HttpRule.plain_toJson (h : HttpRule) : h.toJson.Plain (depth + 6) :=
  PlainMembers.object (.cons (Json.plain_list PathRule.plain_toJson h.paths) .nil) (by decide)

@[simp] theorem HostRule.plain_toJson (r : HostRule) : r.toJson.Plain (depth + 7) :=
  PlainMembers.object (.append (.member? Json.plain_string r.host) (.member? HttpRule.plain_toJson r.http))
    (by decide)

@[simp] theorem TlsEntry.plain_toJson (t : TlsEntry) : t.toJson.Plain (depth + 2) :=
  PlainMembers.object (.append (.member? Json.plain_strings t.hosts) (.member? Json.plain_string t.secretName))
    (by decide)

@[simp] theorem IngressSpec.plain_toJson (s : IngressSpec) : s.toJson.Plain (depth + 9) :=
  PlainMembers.object
    (.append (.append (.append
      (.member? BackendRef.plain_toJson s.defaultBackend)
      (.member? Json.plain_string s.className))
      (.member? (Json.plain_list HostRule.plain_toJson) s.rules))
      (.member? (Json.plain_list TlsEntry.plain_toJson) s.tls)) (by decide)

end Writing

/-- Every specification is read back from its text and is the one that was written. So to decode a document, write
the specification and decode it again is to decode the document. -/
theorem IngressSpec.decode_toJson :
    (∀ s : IngressSpec, Json.readBytes (Text.utf8Bytes s.toJson.compact) = some s.toJson ∧
      Json.Decoder.ingressSpec s.toJson = .ok s) ∧
    ∀ json : Json, (Json.Decoder.ingressSpec json >>= fun s => Json.Decoder.ingressSpec s.toJson) =
      Json.Decoder.ingressSpec json := by
  refine ⟨fun s => ⟨?_, readsBack_ingressSpec.read s⟩, fun json => ?_⟩
  · have hplain : s.toJson.Plain Json.depthLimit := s.plain_toJson
    have hdecode : Text.decodeUtf8? (Text.utf8Bytes s.toJson.compact) = some s.toJson.compact :=
      Text.decodeUtf8?_utf8Bytes _
    rw [Json.readBytes, hdecode]
    exact hplain.read_compact
  · cases Json.Decoder.ingressSpec json with
    | error e => rfl
    | ok s => exact readsBack_ingressSpec.read s

/-- A member that is `null` is unset, and an empty list of rules is set. -/
example : Json.Decoder.ingressSpec (.object [("tls", .null), ("rules", .array [])]) = .ok { rules := some [] } := rfl

end IngressPlane
