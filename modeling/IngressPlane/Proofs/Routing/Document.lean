import IngressPlane.Checking.Checker
import IngressPlane.Proofs.Json.RoundTrip
import IngressPlane.Proofs.Routing.Told
import IngressPlane.Proofs.Texts

/-! The rendered configuration. All that it is made of is plain, part by part, with at most ten containers inside one
another, so it is read back as it was and accepted by the standard checker (`Configuration.render_accepted`). -/
namespace IngressPlane

open Json (PlainMembers)

variable {depth : Nat}

section Services

@[simp] theorem TargetPort.plain_toJson (t : TargetPort) : t.toJson.Plain depth := by
  cases t with
  | number n => exact Json.plain_int32 n
  | name s => exact .string

@[simp] theorem ServicePort.plain_toJson (p : ServicePort) : p.toJson.Plain (depth + 1) :=
  have hport := PlainMembers.cons (Json.plain_int32 p.port) (.member? Json.plain_string p.protocol)
  PlainMembers.object
    (.append (.append (.member? Json.plain_string p.name) hport) (.member? TargetPort.plain_toJson p.target))
    (by decide)

@[simp] theorem ServiceSpec.plain_toJson (s : ServiceSpec) : s.toJson.Plain (depth + 3) := by
  have hselector (t : Table String) : (Json.object (t.map .string).entries).Plain (depth + 2) :=
    Json.plain_table Json.plain_string t
  exact PlainMembers.object
    (.append (.append (.append (.append
      (.member? Json.plain_string s.clusterIP)
      (.member? Json.plain_string s.externalName))
      (.member? (Json.plain_list ServicePort.plain_toJson) s.ports))
      (.member? hselector s.selector))
      (.member? Json.plain_string s.kind)) (by decide)

@[simp] theorem ObjectMeta.plain_toJson (m : ObjectMeta) : m.toJson.Plain (depth + 2) := by
  have htable (t : Table String) : (Json.object (t.map .string).entries).Plain (depth + 1) :=
    Json.plain_table Json.plain_string t
  exact PlainMembers.object
    (.append (.append (.append (.append (.append (.append (.append
      (.member? htable m.annotations)
      (.member? (fun _ => .string) m.created))
      (.member? (fun _ => .string) m.deleted))
      (.member? Json.plain_string m.generateName))
      (.member? htable m.labels))
      (.member? Json.plain_string m.name))
      (.member? Json.plain_string m.scope))
      (.member? Json.plain_string m.uid)) (by decide)

@[simp] theorem Service.plain_toJson (s : Service) : s.toJson.Plain (depth + 4) :=
  have hmetadata := PlainMembers.cons (ObjectMeta.plain_toJson s.metadata) (.member? ServiceSpec.plain_toJson s.spec)
  PlainMembers.object (.cons .string (.cons .string hmetadata)) (by decide)

@[simp] theorem PortKey.plain_toJson (p : PortKey) : p.toJson.Plain depth := by
  cases p with
  | number n => exact Json.plain_int32 n
  | name s => exact .string

end Services

section Policies

@[simp] theorem Authentication.plain_toJson (a : Authentication) : a.toJson.Plain (depth + 1) :=
  .object (by simp) (by simp)

@[simp] theorem PathMapping.plain_toJson (m : PathMapping) : m.toJson.Plain (depth + 1) := .object (by simp) (by simp)

@[simp] theorem Redirection.plain_toJson (r : Redirection) : r.toJson.Plain (depth + 1) := .object (by simp) (by simp)

@[simp] theorem Tracing.plain_toJson (t : Tracing) : t.toJson.Plain (depth + 1) := .object (by simp) (by simp)

@[simp] theorem Logging.plain_toJson (l : Logging) : l.toJson.Plain (depth + 1) := .object (by simp) (by simp)

@[simp] theorem Settings.plain_toJson (s : Settings) : s.toJson.Plain (depth + 1) := .object (by simp) (by simp)

end Policies

section Backends

@[simp] theorem Endpoint.plain_toJson (e : Endpoint) : e.toJson.Plain (depth + 1) :=
  PlainMembers.object (.cons .string (.cons (Json.plain_uint16 e.port) (.member? Json.plain_uint32 e.weight)))
    (by decide)

@[simp] theorem BackendCookie.plain_toJson (c : BackendCookie) : c.toJson.Plain (depth + 3) := by
  have hlocations : (Json.object (c.locations.map Json.strings).entries).Plain (depth + 2) :=
    Json.plain_table Json.plain_strings c.locations
  exact .object (by simp) (by simp [hlocations])

@[simp] theorem BackendAffinity.plain_toJson (a : BackendAffinity) : a.toJson.Plain (depth + 4) :=
  .object (by simp) (by simp)

@[simp] theorem TrafficShaping.plain_toJson (t : TrafficShaping) : t.toJson.Plain (depth + 1) :=
  .object (by simp) (by simp)

@[simp] theorem Backend.plain_toJson (b : Backend) : b.toJson.Plain (depth + 5) := by
  have hhash : Json.Plain (depth + 4) (.object [
      ("upstreamHashBy", .string b.hashBy.key),
      ("upstreamHashBySubset", .bool b.hashBy.subset),
      ("upstreamHashBySubsetSize", .integer b.hashBy.subsetSize.toInt)]) := .object (by simp) (by simp)
  exact .object (by simp) (by simp [hhash])

@[simp] theorem StreamService.plain_toJson (s : StreamService) : s.toJson.Plain (depth + 3) := by
  have hbackend : Json.Plain (depth + 2) (.object [
      ("port", s.backendPort.toJson),
      ("name", .string s.name),
      ("namespace", .string s.scope),
      ("protocol", .string s.protocol.text)]) := .object (by simp) (by simp)
  exact .object (by simp) (by simp [hbackend])

@[simp] theorem Passthrough.plain_toJson (p : Passthrough) : p.toJson.Plain (depth + 5) := .object (by simp) (by simp)

end Backends

section Hosts

@[simp] theorem Certificate.plain_toJson (c : Certificate) : c.toJson.Plain (depth + 2) := .object (by simp) (by simp)

@[simp] theorem KeyPair.plain_toJson (k : KeyPair) : k.toJson.Plain (depth + 3) := .object (by simp) (by simp)

@[simp] theorem Owner.plain_toJson (o : Owner) : o.toJson.Plain (depth + 1) := .object (by simp) (by simp)

@[simp] theorem PathType.plain_toJson (t : PathType) : t.toJson.Plain depth := .string

@[simp] theorem Location.plain_toJson (l : Location) : l.toJson.Plain (depth + 5) := .object (by simp) (by simp)

@[simp] theorem VirtualHost.plain_toJson (v : VirtualHost) : v.toJson.Plain (depth + 7) := .object (by simp) (by simp)

end Hosts

namespace Configuration

@[simp] theorem plain_toJson (c : Configuration) : c.toJson.Plain (depth + 9) := .object (by simp) (by simp)

theorem plain_document (settings : Settings) (c : Configuration) : (document settings c).Plain (depth + 10) :=
  .object (by simp) (by simp)

/-- Whatever is configured, the standard checker accepts the text that is rendered, and the text is read back as the
document that was rendered, in which no object has a name twice. The document is that of these settings only and of
configurations that are told like this one. -/
theorem render_accepted (settings : Settings) (c : Configuration) :
    let bytes := Text.utf8Bytes (c.render settings)
    jsonChecker bytes = .ok () ∧ Json.readBytes bytes = some (document settings c) ∧
      (document settings c).settled = document settings c ∧
      ∀ settings' c', document settings' c' = document settings c → settings' = settings ∧ c'.told = c.told := by
  intro bytes
  have hplain : (document settings c).Plain Json.depthLimit := plain_document settings c
  have hread : Json.readBytes bytes = some (document settings c) := by
    have hdecode : Text.decodeUtf8? bytes = some (document settings c).pretty := Text.decodeUtf8?_utf8Bytes _
    rw [Json.readBytes, hdecode]
    exact hplain.read_pretty
  refine ⟨?_, hread, hplain.settled_eq, fun _ _ => told_document⟩
  rw [jsonChecker, hread]
  rfl

end Configuration
end IngressPlane
