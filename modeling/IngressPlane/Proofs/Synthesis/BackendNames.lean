import IngressPlane.Proofs.Synthesis.StandIns
import IngressPlane.Proofs.Synthesis.Wired
import IngressPlane.Proofs.Texts

/-! What the name of a backend tells of the references that it is for. A name is joined with hyphens, so it
tells the parts between hyphens and no more: references with the same parts share the backend that the first
of them configures, and every location leads to a backend of its owner's parts (`backends_of_references`).
-/
namespace IngressPlane

variable {a b : RoutedIngress × ServiceRef} {service : ServiceRef} {m n : PortKey} {store : Store}
  {now : Instant} {defaultService : Option String} {resources : List RoutedIngress}

def nameParts (name : String) : List String := Text.split '-' name

theorem nameParts_inj {s t : String} : nameParts s = nameParts t ↔ s = t := Text.split_inj

theorem nameParts_join (s t : String) : nameParts (s ++ "-" ++ t) = nameParts s ++ nameParts t :=
  Text.split_join '-' s t

namespace PortKey

/-- Whether a port is a positive number, or a name with a letter in it. -/
def IsProper : PortKey → Prop
  | .number n => 0 < n
  | .name s => ∃ c ∈ s.toList, c.isAlpha

theorem text_ne_of_letter {n : Int32} (hn : 0 < n) {s : String} (hs : ∃ c ∈ s.toList, c.isAlpha) :
    (PortKey.number n).text ≠ s := by
  rintro rfl
  obtain ⟨c, hc, hletter⟩ := hs
  have hdigit : c.isDigit := Text.isDigit_of_mem_decimal (Int32.lt_iff_toInt_lt.1 hn) hc
  rw [Text.isAlpha_of_isDigit hdigit] at hletter
  cases hletter

theorem text_inj (hm : m.IsProper) (hn : n.IsProper) (h : m.text = n.text) : m = n := by
  cases m with
  | number x =>
    cases n with
    | number y =>
      have hx : 0 < x.toInt := Int32.lt_iff_toInt_lt.1 hm
      have hy : 0 < y.toInt := Int32.lt_iff_toInt_lt.1 hn
      rw [Int32.toInt_inj.1 (Text.decimal_inj hx hy h)]
    | name t => exact (text_ne_of_letter hm hn h).elim
  | name s =>
    cases n with
    | number y => exact (text_ne_of_letter hn hm h.symm).elim
    | name t => exact congrArg PortKey.name h

end PortKey

namespace ServiceRef

def parts (service : ServiceRef) : List String :=
  match service.portKey? with
  | some port => nameParts service.name ++ nameParts port.text
  | none => ["INVALID"]

/-- Whether a reference has a port, with a letter in its name if it is named. -/
def HasPort (service : ServiceRef) : Prop :=
  match service.portKey? with
  | some (.number _) => True
  | some (.name name) => ∃ c ∈ name.toList, c.isAlpha
  | none => False

theorem pos_of_portKey? {n : Int32} (h : service.portKey? = some (.number n)) : 0 < n := by
  obtain ⟨port, _, hkey⟩ := Option.bind_eq_some_iff.1 h
  have hnamed (name : Option String) : PortRef.key?.named? name ≠ some (.number n) := by
    unfold PortRef.key?.named?
    split
    · split <;> simp
    · simp
  unfold PortRef.key? at hkey
  cases hnumber : port.number with
  | none =>
    rw [hnumber] at hkey
    exact (hnamed port.name hkey).elim
  | some m =>
    simp only [hnumber] at hkey
    split at hkey
    next hpos =>
      obtain rfl : m = n := by simpa using hkey
      exact hpos
    next => exact (hnamed port.name hkey).elim

theorem HasPort.exists_port (h : service.HasPort) : ∃ port, service.portKey? = some port ∧ port.IsProper ∧
    service.parts = nameParts service.name ++ nameParts port.text := by
  unfold HasPort at h
  cases hport : service.portKey? with
  | none => simp [hport] at h
  | some port =>
    refine ⟨port, rfl, ?_, by rw [parts, hport]⟩
    cases port with
    | number n => exact pos_of_portKey? hport
    | name s =>
      rw [hport] at h
      exact h

end ServiceRef

def referenceParts (reference : RoutedIngress × ServiceRef) : List String :=
  nameParts reference.1.scope ++ reference.2.parts

theorem nameParts_referenceName (reference : RoutedIngress × ServiceRef) :
    nameParts (referenceName reference) = referenceParts reference := by
  unfold referenceName RoutedIngress.backendName backendName referenceParts ServiceRef.parts
  dsimp only
  cases reference.2.portKey? with
  | none =>
    have hname : reference.1.scope ++ "-INVALID" = reference.1.scope ++ "-" ++ "INVALID" := by
      rw [String.append_assoc]
      rfl
    dsimp only
    rw [hname, nameParts_join]
    rfl
  | some port =>
    dsimp only
    rw [nameParts_join, nameParts_join, List.append_assoc]

theorem referenceName_eq_iff : referenceName a = referenceName b ↔ referenceParts a = referenceParts b := by
  rw [← nameParts_inj, nameParts_referenceName, nameParts_referenceName]

/-- Whether two references name the same namespace, service and port. -/
def SameReference (a b : RoutedIngress × ServiceRef) : Prop :=
  a.1.scope = b.1.scope ∧ a.2.name = b.2.name ∧ a.2.portKey? = b.2.portKey?

theorem sameReference_of_parts (ha : a.2.HasPort) (hb : b.2.HasPort) (h : referenceParts a = referenceParts b)
    (hscope : (nameParts a.1.scope).length = (nameParts b.1.scope).length)
    (hname : (nameParts a.2.name).length = (nameParts b.2.name).length) : SameReference a b := by
  obtain ⟨m, hm, hmproper, hmparts⟩ := ha.exists_port
  obtain ⟨n, hn, hnproper, hnparts⟩ := hb.exists_port
  obtain ⟨hscopes, hrest⟩ := List.append_inj h hscope
  rw [hmparts, hnparts] at hrest
  obtain ⟨hnames, htexts⟩ := Text.split_append_inj hrest hname
  refine ⟨nameParts_inj.1 hscopes, hnames, ?_⟩
  rw [hm, hn, PortKey.text_inj hmproper hnproper htexts]

theorem referenceName_eq_default (ha : a.2.HasPort) : referenceName a = defaultBackendName ↔
    a.1.scope = "upstream" ∧ a.2.name = "default" ∧ a.2.portKey? = some (.name "backend") := by
  have hreserved : nameParts defaultBackendName =
      nameParts "upstream" ++ (nameParts "default" ++ nameParts "backend") := by decide
  obtain ⟨port, hport, hproper, hparts⟩ := ha.exists_port
  have hpos (s : String) : 0 < (nameParts s).length := List.length_pos_iff.2 (Text.split_ne_nil '-' s)
  rw [← nameParts_inj, nameParts_referenceName, referenceParts, hparts, hreserved]
  constructor
  · intro h
    have hlength : (nameParts a.1.scope).length +
        ((nameParts a.2.name).length + (nameParts port.text).length) = 3 := by
      rw [← List.length_append, ← List.length_append, h]
      decide
    -- of three parts in all, each of the three texts has at least one
    have hone : (nameParts a.1.scope).length = 1 ∧ (nameParts a.2.name).length = 1 := by
      have hscope := hpos a.1.scope
      have hname := hpos a.2.name
      have htext := hpos port.text
      omega
    obtain ⟨hscope, hrest⟩ := List.append_inj h hone.1
    obtain ⟨hname, htext⟩ := Text.split_append_inj hrest hone.2
    have hnamed : (PortKey.name "backend").IsProper := ⟨'b', by decide, by decide⟩
    exact ⟨nameParts_inj.1 hscope, hname, by rw [hport, PortKey.text_inj hproper hnamed htext]⟩
  · rintro ⟨hscope, hname, hbackend⟩
    obtain rfl : port = .name "backend" := Option.some.inj (hport.symm.trans hbackend)
    rw [hscope, hname]
    rfl

theorem referenceName_eq_standInName (service : Service) : referenceName a = standInName service ↔
    referenceParts a = "custom" :: "default" :: "backend" ::
      (nameParts service.metadata.scopeText ++ nameParts service.metadata.anyName) := by
  have hparts : nameParts (standInName service) = "custom" :: "default" :: "backend" ::
      (nameParts service.metadata.scopeText ++ nameParts service.metadata.anyName) := by
    have hstem : nameParts "custom-default-backend" = ["custom", "default", "backend"] := by decide
    have hname : standInName service = "custom-default-backend" ++ "-" ++ service.metadata.scopeText ++ "-" ++
        service.metadata.anyName := rfl
    rw [hname, nameParts_join, nameParts_join, hstem]
    rfl
  rw [← nameParts_inj, nameParts_referenceName, hparts]

namespace Store

/-- A reference has the backend that the first reference with its parts configures, or the default one. -/
theorem built_of_reference (reference : RoutedIngress × ServiceRef) :
    (store.built now defaultService resources).backends.get? (referenceName reference) =
      if referenceName reference = defaultBackendName then some (store.fallback defaultService)
      else ((allReferences resources).find? (referenceParts · = referenceParts reference)).map
        (Backend.configured store) := by
  have hsame : (fun other => decide (referenceName other = referenceName reference)) =
      fun other => decide (referenceParts other = referenceParts reference) :=
    funext fun _ => decide_eq_decide.2 referenceName_eq_iff
  have hdefault : defaultBackendName = referenceName reference ↔
      referenceName reference = defaultBackendName := eq_comm
  rw [built_backends, get?_buildBackends, (store.fallback_spec defaultService).1, hsame]
  simp only [hdefault]

/-- A wired location leads to the backend of a reference of its owner, or to the default one if the owner
has no default service. -/
theorem allLocations_lead : AllLocations
    (fun l => ∀ owner, l.owner = some owner → ∃ r ∈ primaries resources, r.owner = owner ∧
      ((∃ service ∈ r.serviceRefs, l.backend = referenceName (r, service)) ∨
        r.defaultService = none ∧ l.backend = defaultBackendName))
    (store.wired now defaultService resources).hosts := by
  have hname {r : RoutedIngress} (hr : r ∈ primaries resources) :
      (r.ownFallback? (store.built now defaultService resources).backends).map Backend.name =
        r.defaultService.map r.backendName := ownFallback?_name (mem_primaries.1 hr).1
  refine allLocations_owned (fun r hr => ?_) (fun r hr backend hown root => ?_)
    fun claimed hclaimed backend hbackend => ?_
  · have hlead : (r.placeholder (r.fallbackName (store.built now defaultService resources).backends
        (store.fallback defaultService))).backend =
        (r.defaultService.map r.backendName).getD defaultBackendName := by
      rw [← hname hr, ← (store.fallback_spec defaultService).1]
      rfl
    rw [hlead]
    cases hservice : r.defaultService with
    | none => exact .inr ⟨rfl, rfl⟩
    | some service => exact .inl ⟨service, RoutedIngress.defaultService_mem_serviceRefs hservice, rfl⟩
  · have hlead := hname hr
    rw [hown, Option.map_some, eq_comm, Option.map_eq_some_iff] at hlead
    obtain ⟨service, hservice, hlead⟩ := hlead
    exact .inl ⟨service, RoutedIngress.defaultService_mem_serviceRefs hservice, hlead.symm⟩
  · have hlead : ∃ service ∈ claimed.1.serviceRefs, backend.name = referenceName (claimed.1, service) :=
      ⟨claimed.2.service, RoutedIngress.service_mem_serviceRefs (mem_allClaims.1 hclaimed).2,
        buildBackends_named store resources _ _ backend hbackend⟩
    exact ⟨.inl hlead, fun _ => .inl hlead⟩

end Store

/-- References share a backend exactly if their names have the same parts between hyphens. So they are the
same if their namespaces have as many parts, and their service names have. The reserved name is that of one
reference, and a stand-in's name is that of the references with its parts. A backend is configured by the
first reference with its parts, and an owned location leads to a backend of its owner's references. -/
theorem backends_of_references (store : Store) (now : Instant) (defaultService : Option String)
    (resources : List RoutedIngress) :
    let built := store.built now defaultService resources
    let wired := store.wired now defaultService resources
    let references := allReferences resources
    (∀ a ∈ references, ∀ b ∈ references, a.2.HasPort → b.2.HasPort →
      (referenceName a = referenceName b ↔ referenceParts a = referenceParts b) ∧
      (referenceName a = referenceName b →
        (nameParts a.1.scope).length = (nameParts b.1.scope).length →
        (nameParts a.2.name).length = (nameParts b.2.name).length → SameReference a b)) ∧
    (∀ a ∈ references, a.2.HasPort →
      (referenceName a = defaultBackendName ↔
        a.1.scope = "upstream" ∧ a.2.name = "default" ∧ a.2.portKey? = some (.name "backend")) ∧
      ∀ service, referenceName a = standInName service ↔
        referenceParts a = "custom" :: "default" :: "backend" ::
          (nameParts service.metadata.scopeText ++ nameParts service.metadata.anyName)) ∧
    (∀ a ∈ references, built.backends.get? (referenceName a) =
      if referenceName a = defaultBackendName then some (store.fallback defaultService)
      else (references.find? (referenceParts · = referenceParts a)).map (Backend.configured store)) ∧
    ∀ host ls, locationsAt? wired.hosts host = some ls → ∀ l ∈ ls, ∀ owner, l.owner = some owner →
      ∃ r ∈ primaries resources, r.owner = owner ∧
        ((∃ service ∈ r.serviceRefs, l.backend = referenceName (r, service)) ∨
          r.defaultService = none ∧ l.backend = defaultBackendName) := by
  intro built wired references
  refine ⟨fun a _ b _ ha hb => ⟨referenceName_eq_iff, fun hname hscope hservice => ?_⟩,
    fun a _ ha => ⟨referenceName_eq_default ha, referenceName_eq_standInName⟩,
    fun a _ => Store.built_of_reference a, Store.allLocations_lead⟩
  exact sameReference_of_parts ha hb (referenceName_eq_iff.1 hname) hscope hservice

/-- References of two namespaces that share a backend. -/
example :
    let reference (scope name : String) : RoutedIngress × ServiceRef :=
      (⟨{ metadata := { scope := some scope } }, {}⟩, { name, port := some { number := some 80 } })
    referenceName (reference "a" "b-c") = referenceName (reference "a-b" "c") ∧
      referenceParts (reference "a" "b-c") = ["a", "b", "c", "80"] := by decide +kernel

end IngressPlane
