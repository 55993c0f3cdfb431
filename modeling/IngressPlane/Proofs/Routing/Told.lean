import Mathlib.Data.List.Forall2
import Mathlib.Logic.Function.Basic
import IngressPlane.Proofs.Json.Decode
import IngressPlane.Proofs.Tables
import IngressPlane.Routing.Configuration

/-! What a document tells of a configuration. The contents of password files are not in it, and points in time and the
addresses of certificates are in it as texts, which are not compared here. All else is told, each record by its members
(`Configuration.told_document`). -/
namespace IngressPlane

open Function (FactorsThrough Injective)

namespace Json

variable {α β : Type} {f : α → Json} {g : α → β}

theorem factorsThrough_list (h : FactorsThrough g f) : FactorsThrough (List.map g) (list f) := by
  intro xs ys hsame
  have hitems : xs.map f = ys.map f := Json.array.inj hsame
  rw [← List.forall₂_eq_eq_eq, List.forall₂_map_left_iff, List.forall₂_map_right_iff] at hitems ⊢
  exact hitems.imp fun _ _ hitem => h hitem

theorem factorsThrough_option (h : FactorsThrough g f) (hset : ∀ a, f a ≠ .null) :
    FactorsThrough (Option.map g) (option f) := by
  intro x y hsame
  cases x with
  | none =>
    cases y with
    | none => rfl
    | some b => exact (hset b hsame.symm).elim
  | some a =>
    cases y with
    | none => exact (hset a hsame).elim
    | some b => exact congrArg some (h hsame)

theorem factorsThrough_member? (name : String) (h : FactorsThrough g f) :
    FactorsThrough (Option.map g) (member? name f) := by
  intro x y hsame
  cases x <;> cases y
  · rfl
  · cases hsame
  · cases hsame
  · exact congrArg some (h (congrArg Prod.snd (List.cons.inj hsame).1))

theorem list_injective (h : Injective f) : Injective (list f) := fun _ _ hsame =>
  h.list_map (Json.array.inj hsame)

theorem option_injective (h : Injective f) (hset : ∀ a, f a ≠ .null) : Injective (option f) := by
  intro x y hsame
  simpa using factorsThrough_option (g := id) (fun _ _ hab => h hab) hset hsame

theorem table_injective (h : Injective f) : Injective fun t : Table α => object (t.mapEntries fun _ => f).entries := by
  intro t t' hsame
  have hentries : t.entries.map (fun e => (e.1, f e.2)) = t'.entries.map fun e => (e.1, f e.2) :=
    Json.object.inj hsame
  refine Table.ext (List.map_injective_iff.2 (fun e e' he => ?_) hentries)
  obtain ⟨hkey, hvalue⟩ := Prod.mk.inj he
  exact Prod.ext hkey (h hvalue)

theorem member?_injective (name : String) (h : Injective f) : Injective (member? name f) := by
  intro x y hsame
  simpa using factorsThrough_member? (g := id) name (fun _ _ hab => h hab) hsame

theorem string_injective : Injective Json.string := fun _ _ => Json.string.inj

theorem strings_injective : Injective strings := list_injective string_injective

@[simp] theorem nat_inj {m n : ℕ} : nat m = nat n ↔ m = n := by
  rw [nat, nat, Json.integer.injEq, Int.ofNat_inj]

end Json

open Json (factorsThrough_list factorsThrough_member? factorsThrough_option list_injective member?_injective
  option_injective string_injective strings_injective table_injective)

section Services

theorem PortKey.toJson_injective : Injective PortKey.toJson := by
  intro p p' h
  cases p with
  | number n =>
    cases p' with
    | number n' => exact congrArg PortKey.number (Int32.toInt_inj.1 (Json.integer.inj h))
    | name s' => cases h
  | name s =>
    cases p' with
    | number n' => cases h
    | name s' => exact congrArg PortKey.name (Json.string.inj h)

theorem PortKey.option_injective : Injective (Json.option PortKey.toJson) :=
  Json.option_injective toJson_injective fun p => by cases p <;> exact nofun

theorem TargetPort.toJson_injective : Injective TargetPort.toJson := by
  intro p p' h
  cases p with
  | number n =>
    cases p' with
    | number n' => exact congrArg TargetPort.number (Int32.toInt_inj.1 (Json.integer.inj h))
    | name s' => cases h
  | name s =>
    cases p' with
    | number n' => cases h
    | name s' => exact congrArg TargetPort.name (Json.string.inj h)

theorem ServicePort.toJson_injective : Injective ServicePort.toJson := by
  intro p p' h
  -- members may be left out, so each is looked up by its name and not by its place
  have hfield (name : String) := congrArg (List.filter (·.1 = name)) (Json.object.inj h)
  have hname : p.name = p'.name := member?_injective "name" string_injective (by simpa using hfield "name")
  have hport : p.port = p'.port := Int32.toInt_inj.1 (by simpa using hfield "port")
  have hprotocol : p.protocol = p'.protocol :=
    member?_injective "protocol" string_injective (by simpa using hfield "protocol")
  have htarget : p.target = p'.target :=
    member?_injective "targetPort" TargetPort.toJson_injective (by simpa using hfield "targetPort")
  cases p
  cases p'
  simp_all only

theorem ServiceSpec.toJson_injective : Injective ServiceSpec.toJson := by
  intro s s' h
  have hfield (name : String) := congrArg (List.filter (·.1 = name)) (Json.object.inj h)
  have haddress : s.clusterIP = s'.clusterIP :=
    member?_injective "clusterIP" string_injective (by simpa using hfield "clusterIP")
  have hexternal : s.externalName = s'.externalName :=
    member?_injective "externalName" string_injective (by simpa using hfield "externalName")
  have hports : s.ports = s'.ports :=
    member?_injective "ports" (list_injective ServicePort.toJson_injective) (by simpa using hfield "ports")
  have hselector : s.selector = s'.selector :=
    member?_injective "selector" (table_injective string_injective) (by simpa using hfield "selector")
  have hkind : s.kind = s'.kind := member?_injective "type" string_injective (by simpa using hfield "type")
  cases s
  cases s'
  simp_all only

def ObjectMeta.told (m : ObjectMeta) : ObjectMeta :=
  { m with created := m.created.map fun _ => ⟨0, 0⟩, deleted := m.deleted.map fun _ => ⟨0, 0⟩ }

theorem ObjectMeta.told_toJson : FactorsThrough ObjectMeta.told ObjectMeta.toJson := by
  intro m m' h
  have hfield (name : String) := congrArg (List.filter (·.1 = name)) (Json.object.inj h)
  have htime : FactorsThrough (fun _ : Instant => (⟨0, 0⟩ : Instant)) fun t => Json.string t.wholeText :=
    fun _ _ _ => rfl
  have hannotations : m.annotations = m'.annotations :=
    member?_injective "annotations" (table_injective string_injective) (by simpa using hfield "annotations")
  have hcreated := factorsThrough_member? "creationTimestamp" htime (by simpa using hfield "creationTimestamp")
  have hdeleted := factorsThrough_member? "deletionTimestamp" htime (by simpa using hfield "deletionTimestamp")
  have hstem : m.generateName = m'.generateName :=
    member?_injective "generateName" string_injective (by simpa using hfield "generateName")
  have hlabels : m.labels = m'.labels :=
    member?_injective "labels" (table_injective string_injective) (by simpa using hfield "labels")
  have hname : m.name = m'.name := member?_injective "name" string_injective (by simpa using hfield "name")
  have hscope : m.scope = m'.scope :=
    member?_injective "namespace" string_injective (by simpa using hfield "namespace")
  have huid : m.uid = m'.uid := member?_injective "uid" string_injective (by simpa using hfield "uid")
  simp only [ObjectMeta.told, hannotations, hcreated, hdeleted, hstem, hlabels, hname, hscope, huid]

def Service.told (s : Service) : Service := { s with metadata := s.metadata.told }

theorem Service.told_toJson : FactorsThrough Service.told Service.toJson := by
  intro s s' h
  simp only [Service.toJson, Json.object.injEq, List.cons.injEq, Prod.mk.injEq, true_and] at h
  have hspec : s.spec = s'.spec := member?_injective "spec" ServiceSpec.toJson_injective h.2
  rw [Service.told, Service.told, ObjectMeta.told_toJson h.1, hspec]

theorem Service.told_option : FactorsThrough (Option.map Service.told) (Json.option Service.toJson) :=
  factorsThrough_option told_toJson fun _ => nofun

end Services

section Policies

def Authentication.told (a : Authentication) : Authentication := { a with contents := [] }

theorem Authentication.told_toJson : FactorsThrough Authentication.told Authentication.toJson := by
  intro a a' h
  cases a
  cases a'
  simpa [toJson, told] using h

theorem PathMapping.toJson_injective : Injective PathMapping.toJson := by
  intro m m' h
  cases m
  cases m'
  simpa [toJson] using h

theorem Redirection.toJson_injective : Injective Redirection.toJson := by
  intro r r' h
  cases r
  cases r'
  simpa [toJson, UInt16.toNat_inj] using h

theorem Tracing.toJson_injective : Injective Tracing.toJson := by
  intro t t' h
  cases t
  cases t'
  simpa [toJson] using h

theorem Logging.toJson_injective : Injective Logging.toJson := by
  intro l l' h
  cases l
  cases l'
  simpa [toJson] using h

theorem Settings.toJson_injective : Injective Settings.toJson := by
  intro s s' h
  cases s
  cases s'
  simpa [toJson] using h

end Policies

section Backends

theorem Endpoint.toJson_injective : Injective Endpoint.toJson := by
  intro e e' h
  simp only [toJson, Json.object.injEq, List.cons.injEq, Prod.mk.injEq, Json.string.injEq, Json.nat_inj,
    UInt16.toNat_inj, true_and] at h
  obtain ⟨haddress, hport, hmember⟩ := h
  have hnumber : Injective fun w : UInt32 => Json.nat w.toNat := fun _ _ hsame =>
    UInt32.toNat_inj.1 (Json.nat_inj.1 hsame)
  have hweight : e.weight = e'.weight := member?_injective "weight" hnumber hmember
  cases e
  cases e'
  simp_all only

theorem BackendCookie.toJson_injective : Injective BackendCookie.toJson := by
  intro c c' h
  simp only [toJson, Json.object.injEq, List.cons.injEq, Prod.mk.injEq, Json.string.injEq, Json.bool.injEq,
    true_and, and_true] at h
  have hlocations : c.locations = c'.locations :=
    table_injective strings_injective (congrArg Json.object h.2.2.2.2.2.2.2.2)
  cases c
  cases c'
  simp_all only

theorem BackendAffinity.toJson_injective : Injective BackendAffinity.toJson := by
  intro a a' h
  cases a
  cases a'
  simpa [toJson, BackendCookie.toJson_injective.eq_iff] using h

theorem TrafficShaping.toJson_injective : Injective TrafficShaping.toJson := by
  intro t t' h
  cases t
  cases t'
  simpa [toJson, Int32.toInt_inj] using h

def Backend.told (b : Backend) : Backend := { b with service := b.service.map Service.told }

theorem Backend.told_toJson : FactorsThrough Backend.told Backend.toJson := by
  intro b b' h
  simp only [toJson, Json.object.injEq, List.cons.injEq, Prod.mk.injEq, Json.string.injEq, Json.bool.injEq,
    Json.integer.injEq, Int32.toInt_inj, true_and, and_true] at h
  obtain ⟨hname, hservice, hport, hpassthrough, hendpoints, haffinity, ⟨hkey, hsubset, hsize⟩, hbalancing, hserver,
    hshaping, halternatives⟩ := h
  have hhash : b.hashBy = b'.hashBy := by
    cases hb : b.hashBy
    cases hb' : b'.hashBy
    simp_all only
  simp only [told, Service.told_option hservice, PortKey.option_injective hport,
    list_injective Endpoint.toJson_injective hendpoints, BackendAffinity.toJson_injective haffinity,
    TrafficShaping.toJson_injective hshaping, strings_injective halternatives, *]

theorem Protocol.text_injective : Injective Protocol.text := by
  intro t t' h
  cases t <;> cases t' <;> simp_all [text]

theorem StreamService.toJson_injective : Injective StreamService.toJson := by
  intro s s' h
  simp only [toJson, Json.object.injEq, List.cons.injEq, Prod.mk.injEq, Json.string.injEq, Json.nat_inj,
    UInt16.toNat_inj, PortKey.toJson_injective.eq_iff, Protocol.text_injective.eq_iff,
    (list_injective Endpoint.toJson_injective).eq_iff, true_and, and_true] at h
  cases s
  cases s'
  simp_all only

def Passthrough.told (p : Passthrough) : Passthrough := { p with service := p.service.map Service.told }

theorem Passthrough.told_toJson : FactorsThrough Passthrough.told Passthrough.toJson := by
  intro p p' h
  simp only [toJson, Json.object.injEq, List.cons.injEq, Prod.mk.injEq, Json.string.injEq, true_and, and_true] at h
  obtain ⟨hservice, hbackend, hhostname, hport⟩ := h
  simp only [told, Service.told_option hservice, PortKey.option_injective hport, *]

end Backends

section Hosts

def Certificate.told (c : Certificate) : Certificate := { c with addresses := [] }

theorem Certificate.told_toJson : FactorsThrough Certificate.told Certificate.toJson := by
  intro c c' h
  simp only [toJson, Json.object.injEq, List.cons.injEq, Prod.mk.injEq, Json.string.injEq, true_and] at h
  simp only [told, strings_injective h.2.1, h.1]

def KeyPair.told (k : KeyPair) : KeyPair :=
  { k with certificate := k.certificate.map Certificate.told, expiry := ⟨0, 0⟩ }

theorem KeyPair.told_toJson : FactorsThrough KeyPair.told KeyPair.toJson := by
  intro k k' h
  simp only [toJson, Json.object.injEq, List.cons.injEq, Prod.mk.injEq, Json.string.injEq, true_and] at h
  have hbyte : Injective fun b : UInt8 => Json.nat b.toNat := fun _ _ hsame => UInt8.toNat_inj.1 (Json.nat_inj.1 hsame)
  simp only [told, list_injective hbyte h.2.1, factorsThrough_option Certificate.told_toJson (fun _ => nofun) h.2.2.1,
    h.1]

theorem Owner.toJson_injective : Injective Owner.toJson := by
  intro o o' h
  have hbool : Injective (Json.option .bool) := option_injective (fun _ _ => Json.bool.inj) (fun _ => nofun)
  simp only [toJson, Json.object.injEq, List.cons.injEq, Prod.mk.injEq, Json.string.injEq, hbool.eq_iff, true_and,
    and_true] at h
  cases o
  cases o'
  simp_all only

theorem PathType.toJson_injective : Injective PathType.toJson := by
  intro t t' h
  cases t <;> cases t' <;> simp_all [toJson, text]

def LocationPolicy.told (p : LocationPolicy) : LocationPolicy :=
  { p with auth := p.auth.told, defaultBackend := p.defaultBackend.map Service.told }

def Location.told (l : Location) : Location := { l with service := l.service.map Service.told, policy := l.policy.told }

theorem Location.told_toJson : FactorsThrough Location.told Location.toJson := by
  intro l l' h
  simp only [toJson, Json.object.injEq, List.cons.injEq, Prod.mk.injEq, Json.string.injEq, Json.bool.injEq, true_and,
    and_true] at h
  obtain ⟨hpath, hwritten, htype, hfallback, hbackend, hservice, hport, howner, hauth, hmapping, hredirect, hprotocol,
    hdefault, hstandIn, hpush, htracing, hsnippet, hlogs, hdenied⟩ := h
  have hpolicy : l.policy.told = l'.policy.told := by
    simp only [LocationPolicy.told, Authentication.told_toJson hauth, PathMapping.toJson_injective hmapping,
      Redirection.toJson_injective hredirect, Service.told_option hdefault, Tracing.toJson_injective htracing,
      Logging.toJson_injective hlogs, option_injective string_injective (fun _ => nofun) hdenied, *]
  simp only [told, PathType.toJson_injective htype, Service.told_option hservice, PortKey.option_injective hport,
    option_injective Owner.toJson_injective (fun _ => nofun) howner, *]

def VirtualHost.told (v : VirtualHost) : VirtualHost :=
  { v with keyPair := v.keyPair.map KeyPair.told, locations := v.locations.map Location.told }

theorem VirtualHost.told_toJson : FactorsThrough VirtualHost.told VirtualHost.toJson := by
  intro v v' h
  simp only [toJson, Json.object.injEq, List.cons.injEq, Prod.mk.injEq, Json.string.injEq, Json.bool.injEq, true_and,
    and_true] at h
  obtain ⟨hname, haliases, hkeyPair, hpassthrough, hciphers, hprefer, hsnippet, hredirect, hlocations⟩ := h
  simp only [told, strings_injective haliases,
    factorsThrough_option KeyPair.told_toJson (fun _ => nofun) hkeyPair,
    factorsThrough_list Location.told_toJson hlocations, *]

end Hosts

namespace Configuration

def told (c : Configuration) : Configuration :=
  { c with
    backends := c.backends.map Backend.told
    hosts := c.hosts.map VirtualHost.told
    passthroughs := c.passthroughs.map Passthrough.told
    defaultKeyPair := c.defaultKeyPair.map KeyPair.told }

theorem told_toJson : FactorsThrough told toJson := by
  intro c c' h
  simp only [toJson, Json.object.injEq, List.cons.injEq, Prod.mk.injEq, Json.string.injEq, true_and, and_true] at h
  obtain ⟨hbackends, hhosts, htcp, hudp, hpassthroughs, hchecksum, hkeyPair, hsnippets⟩ := h
  simp only [told, factorsThrough_list Backend.told_toJson hbackends,
    factorsThrough_list VirtualHost.told_toJson hhosts, list_injective StreamService.toJson_injective htcp,
    list_injective StreamService.toJson_injective hudp,
    factorsThrough_list Passthrough.told_toJson hpassthroughs,
    factorsThrough_option KeyPair.told_toJson (fun _ => nofun) hkeyPair, strings_injective hsnippets, *]

/-- Documents are the same only under the same settings and of configurations that are told alike. -/
theorem told_document {settings settings' : Settings} {c c' : Configuration}
    (h : document settings c = document settings' c') : settings = settings' ∧ c.told = c'.told := by
  simp only [document, Json.object.injEq, List.cons.injEq, Prod.mk.injEq, true_and, and_true] at h
  exact ⟨Settings.toJson_injective h.1, told_toJson h.2⟩

end Configuration
end IngressPlane
