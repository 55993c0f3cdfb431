import IngressPlane.Proofs.Synthesis.Canaries
import IngressPlane.Proofs.Synthesis.Expansion
import IngressPlane.Proofs.Synthesis.StandIns

/-! The hosts of a configuration are those that were wired: the stages in between only lead locations
elsewhere, and the last one expands and sorts them. Settings may take the snippets of the ingresses away, and
nothing else. -/
namespace IngressPlane

variable {store : Store} {now : Instant} {defaultService : Option String}
  {resources : List RoutedIngress}

def RoutedIngress.counted (settings : Settings) (r : RoutedIngress) : RoutedIngress :=
  if settings.allowSnippets then r else { r with policy := r.policy.withoutSnippets }

theorem admissible_eq (settings : Settings) (resources : List RoutedIngress) :
    admissible settings resources = resources.map (RoutedIngress.counted settings) := by
  unfold admissible
  split
  next h =>
    have hself : RoutedIngress.counted settings = id := funext fun r => if_pos h
    rw [hself, List.map_id]
  next h => exact List.map_congr_left fun r _ => (if_neg h).symm

namespace RoutedIngress

variable (settings : Settings) (r : RoutedIngress)

theorem counted_ingress : (r.counted settings).ingress = r.ingress := by
  unfold counted
  split <;> rfl

theorem counted_hostnames : (r.counted settings).hostnames = r.hostnames := by
  rw [hostnames, rules, counted_ingress, hostnames, rules]

theorem counted_isCanary : (r.counted settings).isCanary = r.isCanary := by
  unfold counted
  split <;> rfl

theorem counted_wantsRoot : (r.counted settings).wantsRoot = r.wantsRoot := by
  unfold counted
  split <;> rfl

theorem counted_owner : (r.counted settings).owner = r.owner := by
  unfold counted
  split <;> rfl

theorem counted_auth : (r.counted settings).policy.auth = r.policy.auth := by
  unfold counted
  split <;> rfl

theorem counted_denied : (r.counted settings).policy.denied = r.policy.denied := by
  unfold counted
  split <;> rfl

end RoutedIngress

theorem primaries_admissible (settings : Settings) (resources : List RoutedIngress) :
    primaries (admissible settings resources) =
      (primaries resources).map (RoutedIngress.counted settings) := by
  rw [admissible_eq, primaries, List.filter_map]
  refine congrArg (List.map _) (List.filter_congr fun r _ => ?_)
  rw [Function.comp, RoutedIngress.counted_isCanary]

@[simp] theorem Location.skeleton_path (l : Location) : l.skeleton.path = l.path := rfl
@[simp] theorem Location.skeleton_ingressPath (l : Location) :
    l.skeleton.ingressPath = l.ingressPath := rfl
@[simp] theorem Location.skeleton_key (l : Location) : l.skeleton.key = l.key := rfl
@[simp] theorem Location.skeleton_pathType (l : Location) : l.skeleton.pathType = l.pathType := rfl
@[simp] theorem Location.skeleton_owner (l : Location) : l.skeleton.owner = l.owner := rfl
@[simp] theorem Location.skeleton_policy (l : Location) : l.skeleton.policy = l.policy := rfl
@[simp] theorem Location.skeleton_isFallback (l : Location) : l.skeleton.isFallback = l.isFallback := rfl

namespace Store

def unexpanded (store : Store) (now : Instant) (defaultService : Option String)
    (resources : List RoutedIngress) : Draft :=
  ((store.shadowed now defaultService resources).addStandIns store).markPassthrough

theorem arranged_eq : store.arranged now defaultService resources =
    (store.unexpanded now defaultService resources).arrange := rfl

/-- The hosts before expansion are those that were wired, but for where their locations lead to. -/
theorem unexpanded_hosts (store : Store) (now : Instant) (defaultService : Option String)
    (resources : List RoutedIngress) : ∃ f : Location → Location, (∀ l, (f l).skeleton = l.skeleton) ∧
    (store.unexpanded now defaultService resources).hosts =
      (store.wired now defaultService resources).hosts.map fun h =>
        { h with locations := h.locations.map f } := by
  obtain ⟨f, hf, hhosts⟩ := (store.shadowed now defaultService resources).addStandIns_hosts store
  refine ⟨f, hf, ?_⟩
  have hshadowed : (store.shadowed now defaultService resources).hosts =
      (store.wired now defaultService resources).hosts := Draft.attachCanaries_hosts _ _
  rw [← hshadowed, ← hhosts]
  rfl

theorem locationsAt?_unexpanded (store : Store) (now : Instant) (defaultService : Option String)
    (resources : List RoutedIngress) : ∃ f : Location → Location, (∀ l, (f l).skeleton = l.skeleton) ∧
    ∀ host, locationsAt? (store.unexpanded now defaultService resources).hosts host =
      (locationsAt? (store.wired now defaultService resources).hosts host).map (·.map f) := by
  obtain ⟨f, hf, hhosts⟩ := store.unexpanded_hosts now defaultService resources
  refine ⟨f, hf, fun host => ?_⟩
  simp only [locationsAt?, hhosts, Table.get?_map, Option.map_map]
  rfl

theorem keys_unexpanded {host : String} {ls : List Location}
    (h : locationsAt? (store.unexpanded now defaultService resources).hosts host = some ls) :
    ∃ old, locationsAt? (store.wired now defaultService resources).hosts host = some old ∧
      ls.map Location.key = old.map Location.key := by
  obtain ⟨f, hf, hlocations⟩ := store.locationsAt?_unexpanded now defaultService resources
  rw [hlocations] at h
  obtain ⟨old, hold, rfl⟩ := Option.map_eq_some_iff.1 h
  have hkey : Location.key ∘ f = Location.key := funext fun l => by simpa using congrArg Location.key (hf l)
  exact ⟨old, hold, by rw [List.map_map, hkey]⟩

theorem unexpanded_hosts_named :
    (store.unexpanded now defaultService resources).hosts.Named VirtualHost.hostname := by
  obtain ⟨f, _, hhosts⟩ := store.unexpanded_hosts now defaultService resources
  rw [hhosts]
  exact (store.wired_hosts_named now defaultService resources).map fun _ => rfl

theorem arranged_hosts_named :
    (store.arranged now defaultService resources).hosts.Named VirtualHost.hostname :=
  unexpanded_hosts_named.map fun _ => rfl

/-- The hosts that are configured: the catch-all host, and those in rules, canaries' rules apart. -/
theorem contains_arranged_hosts (host : String) :
    (store.arranged now defaultService resources).hosts.contains host =
      (decide (host = catchAllHost) || decide (∃ r ∈ primaries resources, host ∈ r.hostnames)) := by
  obtain ⟨f, _, hhosts⟩ := store.unexpanded_hosts now defaultService resources
  rw [arranged_eq, Draft.arrange, Table.contains_map, hhosts, Table.contains_map, contains_wired_hosts,
    contains_built_hosts]

theorem arranged_shell (store : Store) (now : Instant) (defaultService : Option String)
    (resources : List RoutedIngress) :
    (store.arranged now defaultService resources).hosts.map VirtualHost.shell =
      (store.built now defaultService resources).hosts.map VirtualHost.shell := by
  obtain ⟨f, _, hhosts⟩ := store.unexpanded_hosts now defaultService resources
  rw [← Draft.foldl_wire_shell (allClaims resources) (store.built now defaultService resources)]
  refine Table.ext_get? fun k => ?_
  simp only [arranged_eq, Draft.arrange, hhosts, Table.get?_map, Option.map_map]
  rfl

theorem notes_built_prefix (store : Store) (now : Instant) (defaultService : Option String)
    (resources : List RoutedIngress) :
    (store.built now defaultService resources).notes <+: (store.arranged now defaultService resources).notes := by
  have hwired : (store.built now defaultService resources).notes <+:
      (store.wired now defaultService resources).notes := Draft.notes_prefix_foldl_wire _ _
  have hshadowed : (store.wired now defaultService resources).notes <+:
      (store.shadowed now defaultService resources).notes := by
    unfold shadowed Draft.attachCanaries
    split
    · exact List.prefix_refl _
    · exact List.prefix_append _ _
  exact hwired.trans hshadowed

theorem synthesize_hostnames :
    (store.synthesize now defaultService resources).configuration.hosts.map (·.hostname) =
      (store.arranged now defaultService (admissible store.settings resources)).hosts.keys :=
  Table.Named.map_values arranged_hosts_named

theorem hostnames_congr {others : List RoutedIngress} (h : ∀ r, r ∈ others ↔ r ∈ resources) :
    (store.synthesize now defaultService others).configuration.hosts.map (·.hostname) =
      (store.synthesize now defaultService resources).configuration.hosts.map (·.hostname) := by
  have hadmissible (r : RoutedIngress) :
      r ∈ admissible store.settings others ↔ r ∈ admissible store.settings resources := by
    simp only [admissible_eq, List.mem_map, h]
  rw [synthesize_hostnames, synthesize_hostnames]
  refine Table.keys_congr fun host => ?_
  rw [contains_arranged_hosts, contains_arranged_hosts]
  have hprimary (r : RoutedIngress) : r ∈ primaries (admissible store.settings others) ↔
      r ∈ primaries (admissible store.settings resources) := by
    rw [mem_primaries, hadmissible, mem_primaries]
  exact congrArg (decide (host = catchAllHost) || ·) (decide_eq_decide.2
    (exists_congr fun r => and_congr_left fun _ => hprimary r))

end Store
end IngressPlane
