import IngressPlane.Store.Resolve
import IngressPlane.Table.Lemmas
import Mathlib.Data.List.Nodup

/-! What the endpoints of a service port are, apart from how they are looked for (`Store.Publishes`). A reference
may mean several ports of a service, and repeated endpoints are dropped only within each of them: an endpoint is
found once for every port that is meant and that it is published for (`resolve_published`). -/
namespace IngressPlane

/-- Whether a reference means a service port: by its number, its name or its target. -/
def PortKey.Means : PortKey → ServicePort → Prop
  | .number n, p => p.port = n ∨ p.target = some (.number n)
  | .name s, p => p.name = some s ∨ p.target = some (.name s)

instance (key : PortKey) (p : ServicePort) : Decidable (key.Means p) := by
  cases key <;> exact inferInstanceAs (Decidable (_ ∨ _))

/-- Whether a service port has a name. The empty one is none. -/
def ServicePort.IsNamed (p : ServicePort) : Prop := p.name.getD "" ≠ ""

instance (p : ServicePort) : Decidable p.IsNamed := inferInstanceAs (Decidable (_ ≠ _))

/-- An endpoint port that a service port leads to, with this number. -/
structure EndpointPort.Serves (q : EndpointPort) (p : ServicePort) (number : UInt16) : Prop where
  protocol : q.protocol.getD "TCP" = p.protocol.getD "TCP"
  name : p.IsNamed → q.name = p.name
  port : q.port.toInt = number.toNat
  positive : 0 < number.toNat

instance (q : EndpointPort) (p : ServicePort) (number : UInt16) : Decidable (q.Serves p number) :=
  decidable_of_iff (q.protocol.getD "TCP" = p.protocol.getD "TCP" ∧ (p.IsNamed → q.name = p.name) ∧
      q.port.toInt = number.toNat ∧ 0 < number.toNat)
    ⟨fun ⟨hprotocol, hname, hport, hpositive⟩ => ⟨hprotocol, hname, hport, hpositive⟩,
      fun h => ⟨h.protocol, h.name, h.port, h.positive⟩⟩

namespace Store

def subsetsOf (store : Store) (key : String) : List EndpointSubset :=
  ((store.endpoints.get? key).bind (·.subsets)).getD []

/-- Whether an address is ready for a port of a service under this number. -/
def Publishes (store : Store) (key : String) (p : ServicePort) (address : String) (number : UInt16) : Prop :=
  ∃ subset ∈ store.subsetsOf key, address ∈ subset.addresses.getD [] ∧
    ∃ q ∈ subset.ports.getD [], q.Serves p number

instance (store : Store) (key : String) (p : ServicePort) (address : String) (number : UInt16) :
    Decidable (store.Publishes key p address number) := by
  unfold Publishes
  infer_instance

end Store

section Lists
variable {α β : Type} [DecidableEq β]

theorem nodup_eraseDups (xs : List β) : xs.eraseDups.Nodup := by
  cases xs with
  | nil => exact List.nodup_nil
  | cons x xs =>
    rw [List.eraseDups_cons, List.nodup_cons, List.mem_eraseDups]
    exact ⟨by simp, nodup_eraseDups _⟩
termination_by xs.length
decreasing_by exact Nat.lt_succ_of_le (List.length_filter_le _ _)

theorem count_flatMap_of_nodup {f : α → List β} {xs : List α} (h : ∀ x ∈ xs, (f x).Nodup) (y : β) :
    (xs.flatMap f).count y = xs.countP (y ∈ f ·) := by
  induction xs with
  | nil => rfl
  | cons x xs ih =>
    obtain ⟨hx, hxs⟩ := List.forall_mem_cons.1 h
    rw [List.flatMap_cons, List.count_append, ih hxs, hx.count, List.countP_cons, Nat.add_comm]
    simp only [decide_eq_true_eq]

end Lists

variable {store : Store} {key : String} {servicePort : ServicePort} {spec : ServiceSpec} {e : Endpoint}

theorem ServicePort.matches_iff {p : ServicePort} {key : PortKey} : p.matches key ↔ key.Means p := by
  cases key <;> simp [ServicePort.matches, PortKey.Means]

theorem port?_eq_some_iff {n : Int32} {number : UInt16} : port? n = some number ↔ n.toInt = number.toNat := by
  have hlower : 0 ≤ n ↔ 0 ≤ n.toInt := Int32.le_iff_toInt_le
  have hupper : n ≤ 65535 ↔ n.toInt ≤ 65535 := Int32.le_iff_toInt_le
  have hrange : number.toNat < 65536 := number.toNat_lt
  unfold port?
  simp only [Bool.and_eq_true, decide_eq_true_eq, hlower, hupper]
  split
  next hin =>
    rw [Option.some.injEq, ← UInt16.toNat_inj, UInt16.toNat_ofNat']
    omega
  next hout =>
    refine ⟨fun h => (nomatch h), fun heq => (hout ?_).elim⟩
    omega

namespace EndpointPort

variable {q : EndpointPort} {number : UInt16}

theorem serving?_eq_some_iff : q.serving? servicePort = some number ↔ q.Serves servicePort number := by
  have hname : (decide (servicePort.name.getD "" ≠ "") && decide (q.name ≠ servicePort.name)) = true ↔
      ¬ (servicePort.IsNamed → q.name = servicePort.name) := by
    simp [ServicePort.IsNamed]
  have hpositive : decide (number ≠ 0) = true ↔ 0 < number.toNat := by
    rw [decide_eq_true_iff, Nat.pos_iff_ne_zero, ne_eq, ← UInt16.toNat_inj]
    rfl
  unfold serving?
  constructor
  · intro h
    split at h
    · cases h
    next hprotocol =>
      split at h
      · cases h
      next hnamed =>
        obtain ⟨hnumber, hne⟩ := Option.filter_eq_some_iff.1 h
        exact ⟨Decidable.not_not.1 hprotocol, Decidable.not_not.1 (hname.not.1 hnamed),
          port?_eq_some_iff.1 hnumber, hpositive.1 hne⟩
  · intro h
    rw [if_neg (not_not_intro h.protocol), if_neg (hname.not.2 (not_not_intro h.name)),
      Option.filter_eq_some_iff]
    exact ⟨port?_eq_some_iff.2 h.port, hpositive.2 h.positive⟩

end EndpointPort

theorem EndpointSubset.mem_serving {subset : EndpointSubset} :
    e ∈ subset.serving servicePort ↔ e.weight = none ∧ e.address ∈ subset.addresses.getD [] ∧
      ∃ q ∈ subset.ports.getD [], q.Serves servicePort e.port := by
  obtain ⟨address, number, weight⟩ := e
  simp only [EndpointSubset.serving, List.mem_flatMap, List.mem_filterMap, List.mem_map,
    EndpointPort.serving?_eq_some_iff, Endpoint.mk.injEq]
  constructor
  · rintro ⟨_, ⟨q, hq, hserves⟩, _, haddress, rfl, rfl, rfl⟩
    exact ⟨rfl, haddress, q, hq, hserves⟩
  · rintro ⟨rfl, haddress, q, hq, hserves⟩
    exact ⟨number, ⟨q, hq, hserves⟩, address, haddress, rfl, rfl, rfl⟩

namespace Store

/-- The endpoints of a service port are those that are published for it, each once. -/
theorem portEndpoints_spec (hkind : spec.kind ≠ some "ExternalName") (servicePort : ServicePort) :
    (store.portEndpoints key spec servicePort).Nodup ∧
      ∀ e, e ∈ store.portEndpoints key spec servicePort ↔
        e.weight = none ∧ store.Publishes key servicePort e.address e.port := by
  unfold portEndpoints
  rw [if_neg hkind]
  cases hendpoints : store.endpoints.get? key with
  | none => simp [Publishes, subsetsOf, hendpoints]
  | some endpoints =>
    have hsubsets : store.subsetsOf key = endpoints.subsets.getD [] := by simp [subsetsOf, hendpoints]
    refine ⟨nodup_eraseDups _, fun e => ?_⟩
    rw [List.mem_eraseDups, List.mem_flatMap, Publishes, hsubsets]
    simp only [EndpointSubset.mem_serving, and_left_comm (b := e.weight = none), exists_and_left]

theorem resolve_eq {service : Service} {ports : List ServicePort} (hservice : store.services.get? key = some service)
    (hspec : service.spec = some spec) (hports : spec.ports = some ports) (port : PortKey) :
    store.resolve key port =
      .ok ((ports.filter (·.matches port)).flatMap (store.portEndpoints key spec)) := by
  have hfound : store.service key = .ok service := by rw [Store.service, hservice]
  simp only [resolve, hfound, bind, Except.bind, hspec, hports, pure, Except.pure]

/-- A service with ports that stands for no name outside of the cluster always resolves, to the addresses that are
published for the ports that the reference means, and nothing else. Each of them is listed as often as there are
such ports, so nothing is repeated exactly if no address is published for two of them under the same number. -/
theorem resolve_published {service : Service} {ports : List ServicePort}
    (hservice : store.services.get? key = some service) (hspec : service.spec = some spec)
    (hports : spec.ports = some ports) (hkind : spec.kind ≠ some "ExternalName") (port : PortKey) :
    ∃ found, store.resolve key port = .ok found ∧
      (∀ e, e ∈ found ↔ e.weight = none ∧
        ∃ p ∈ ports, port.Means p ∧ store.Publishes key p e.address e.port) ∧
      (∀ e ∈ found, found.count e =
        ports.countP fun p => port.Means p ∧ store.Publishes key p e.address e.port) ∧
      (found.Nodup ↔ ∀ address number,
        (ports.countP fun p => port.Means p ∧ store.Publishes key p address number) ≤ 1) := by
  have hmem (e : Endpoint) (p : ServicePort) : e ∈ store.portEndpoints key spec p ↔
      e.weight = none ∧ store.Publishes key p e.address e.port := (portEndpoints_spec hkind p).2 e
  have hcount (address : String) (number : UInt16) :
      ((ports.filter (·.matches port)).flatMap (store.portEndpoints key spec)).count { address, port := number } =
        ports.countP fun p => port.Means p ∧ store.Publishes key p address number := by
    rw [count_flatMap_of_nodup fun p _ => (portEndpoints_spec hkind p).1, List.countP_filter]
    refine List.countP_congr fun p _ => ?_
    simp only [hmem, true_and, Bool.and_eq_true, decide_eq_true_eq, ServicePort.matches_iff, and_comm]
  have hlisted : ∀ e ∈ (ports.filter (·.matches port)).flatMap (store.portEndpoints key spec),
      e = { address := e.address, port := e.port } := by
    intro e he
    obtain ⟨p, _, hp⟩ := List.mem_flatMap.1 he
    have hweight := ((hmem e p).1 hp).1
    cases e
    cases hweight
    rfl
  refine ⟨_, resolve_eq hservice hspec hports port, fun e => ?_, fun e he => ?_, ?_⟩
  · simp only [List.mem_flatMap, List.mem_filter, ServicePort.matches_iff, hmem, and_assoc]
    constructor
    · rintro ⟨p, hp, hmeans, hweight, hpublishes⟩
      exact ⟨hweight, p, hp, hmeans, hpublishes⟩
    · rintro ⟨hweight, p, hp, hmeans, hpublishes⟩
      exact ⟨p, hp, hmeans, hweight, hpublishes⟩
  · rw [hlisted e he]
    exact hcount e.address e.port
  · rw [List.nodup_iff_count_le_one]
    refine ⟨fun h address number => hcount address number ▸ h _, fun h e => ?_⟩
    by_cases he : e ∈ (ports.filter (·.matches port)).flatMap (store.portEndpoints key spec)
    · rw [hlisted e he, hcount]
      exact h e.address e.port
    · rw [List.count_eq_zero_of_not_mem he]
      exact Nat.zero_le 1

/-- A service with one number for two protocols: its pod is found twice. -/
theorem resolve_published_of_dns :
    let ports : List ServicePort :=
      [{ name := some "dns", port := 53, protocol := some "UDP" }, { name := some "dns-tcp", port := 53 }]
    let spec : ServiceSpec := { ports := some ports }
    let subset : EndpointSubset :=
      { addresses := some ["10.0.0.1"]
        ports := some
          [{ name := some "dns", port := 53, protocol := some "UDP" }, { name := some "dns-tcp", port := 53 }] }
    let store : Store :=
      { options := {}
        services := Table.empty.insert "ns/dns" { spec := some spec }
        endpoints := Table.empty.insert "ns/dns" { subsets := some [subset] } }
    store.services.get? "ns/dns" = some { spec := some spec } ∧ spec.kind ≠ some "ExternalName" ∧
      ∃ found, store.resolve "ns/dns" (.number 53) = .ok found ∧
        { address := "10.0.0.1", port := 53 } ∈ found ∧ ¬ found.Nodup := by
  intro ports spec subset store
  have hservice : store.services.get? "ns/dns" = some { spec := some spec } := Table.get?_insert_self _ _ _
  have hkind : spec.kind ≠ some "ExternalName" := by decide
  obtain ⟨found, hfound, hmem, _, hnodup⟩ := resolve_published hservice rfl rfl hkind (.number 53)
  have hpublished : ∃ p ∈ ports, PortKey.Means (.number 53) p ∧ store.Publishes "ns/dns" p "10.0.0.1" 53 := by
    decide +kernel
  have htwice : ¬ (ports.countP fun p => PortKey.Means (.number 53) p ∧
      store.Publishes "ns/dns" p "10.0.0.1" 53) ≤ 1 := by decide +kernel
  exact ⟨hservice, hkind, found, hfound, (hmem _).2 ⟨rfl, hpublished⟩, fun h => htwice (hnodup.1 h _ _)⟩

end Store
end IngressPlane
