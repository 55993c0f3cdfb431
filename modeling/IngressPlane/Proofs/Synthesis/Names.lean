import IngressPlane.Proofs.Store.Keyed
import IngressPlane.Proofs.Synthesis.HostFields
import Mathlib.Data.List.Nodup

/-! The names that are served: hostnames and aliases. A hostname is served by one host, and not as an alias. An
alias is served once by each host that it is set for, so two hosts for which the same alias is set are both
served under it, and otherwise no name is served twice (`synthesize_names`). -/
namespace IngressPlane

variable {store : Store} {now : Instant} {defaultService : Option String} {resources : List RoutedIngress}
  {v : VirtualHost} {hosts : List VirtualHost}

def VirtualHost.names (v : VirtualHost) : List String := v.hostname :: v.aliases

@[simp] theorem VirtualHost.shell_aliases (v : VirtualHost) : v.shell.aliases = v.aliases := rfl

theorem mem_servedNames {hosts : Table VirtualHost} {name : String} :
    name ∈ servedNames hosts ↔ name ∈ hosts.values.flatMap VirtualHost.names :=
  mem_ascending

theorem pairwise_servedNames {hosts : Table VirtualHost} : (servedNames hosts).Pairwise (· < ·) :=
  pairwise_ascending _

/-- Where hostnames are no aliases, no name is served twice exactly if no alias is one of two hosts. -/
theorem nodup_names_iff (hhostnames : (hosts.map (·.hostname)).Nodup)
    (haliases : ∀ v ∈ hosts, v.aliases.Nodup ∧ ∀ name ∈ v.aliases, name ∉ hosts.map (·.hostname)) :
    (hosts.flatMap VirtualHost.names).Nodup ↔ hosts.Pairwise fun v w => ∀ name ∈ v.aliases, name ∉ w.aliases := by
  have hown : ∀ v ∈ hosts, v.names.Nodup := fun v hv =>
    List.nodup_cons.2 ⟨fun hmem => (haliases v hv).2 _ hmem (List.mem_map_of_mem hv), (haliases v hv).1⟩
  rw [List.nodup_flatMap, and_iff_right hown]
  have hapart : hosts.Pairwise fun v w => v.hostname ≠ w.hostname := List.pairwise_map.1 hhostnames
  constructor
  · intro hdisjoint
    exact hdisjoint.imp fun h name hv hw => h (List.mem_cons_of_mem _ hv) (List.mem_cons_of_mem _ hw)
  · intro hshared
    refine (hapart.and hshared).imp_of_mem fun {v w} hv hw ⟨hother, hnone⟩ name hnv hnw => ?_
    rcases List.mem_cons.1 hnv with rfl | hnv
    · rcases List.mem_cons.1 hnw with heq | hnw
      · exact hother heq
      · exact (haliases w hw).2 _ hnw (List.mem_map_of_mem hv)
    · rcases List.mem_cons.1 hnw with rfl | hnw
      · exact (haliases v hv).2 _ hnv (List.mem_map_of_mem hw)
      · exact hnone name hnv hnw

namespace HostField

theorem settled_admissible {α : Type} [DecidableEq α] (F : HostField α) {settings : Settings}
    (hkeep : ∀ r : RoutedIngress, F.ofPolicy (r.counted settings).policy = F.ofPolicy r.policy)
    (resources : List RoutedIngress) (host : String) :
    F.settled (admissible settings resources) host = F.settled resources host := by
  have hsame : (fun r : RoutedIngress => F.ofPolicy r.policy) ∘ RoutedIngress.counted settings =
      fun r => F.ofPolicy r.policy := funext hkeep
  unfold settled primariesFor
  rw [primaries_admissible, List.filter_map, List.map_map, hsame]
  refine congrArg (fun rs => firstSet F.unset (List.map _ rs)) (List.filter_congr fun r _ => ?_)
  rw [Function.comp, RoutedIngress.counted_hostnames]

end HostField

namespace Store

theorem aliases_built {host : String} (hv : (store.built now defaultService resources).hosts.get? host = some v) :
    v.aliases = ascending ((HostField.aliases.settled resources host).filter fun name =>
      !(store.built now defaultService resources).hosts.keys.contains name) := by
  let backends := (store.buildBackends resources (store.defaultBackend defaultService).1).1
  let merged := (ruleHosts resources).foldl (mergeRule store now)
    (openedHosts store resources backends (store.defaultBackend defaultService).1, [])
  have hhosts : (store.built now defaultService resources).hosts =
    merged.1.map (·.dropHostAliases merged.1.keys) := rfl
  rw [hhosts, Table.get?_map] at hv
  obtain ⟨m, hm, rfl⟩ := Option.map_eq_some_iff.1 hv
  have haliases : m.aliases = HostField.aliases.settled resources host := HostField.aliases.eq_settled hm
  rw [hhosts, Table.keys_map, ← haliases]
  rfl

theorem synthesize_servedNames : (store.synthesize now defaultService resources).names =
    servedNames (store.arranged now defaultService (admissible store.settings resources)).hosts := by
  unfold synthesize
  dsimp only

theorem synthesize_aliases (hv : v ∈ (store.synthesize now defaultService resources).configuration.hosts) :
    v.aliases = ascending ((HostField.aliases.settled resources v.hostname).filter fun name =>
      !((store.synthesize now defaultService resources).configuration.hosts.map (·.hostname)).contains name) := by
  have hget := arranged_hosts_named.get?_of_mem hv
  have hshells := store.arranged_shell now defaultService (admissible store.settings resources)
  obtain ⟨w, hw, hshell⟩ := Table.get?_of_map_eq hshells hget
  have hsame : w.shell.aliases = v.shell.aliases := congrArg VirtualHost.aliases hshell
  have hkeys := congrArg Table.keys hshells
  rw [Table.keys_map, Table.keys_map] at hkeys
  have hsettled : HostField.aliases.settled (admissible store.settings resources) v.hostname =
      HostField.aliases.settled resources v.hostname :=
    HostField.aliases.settled_admissible (fun r => by unfold RoutedIngress.counted; split <;> rfl) _ _
  rw [← v.shell_aliases, ← hsame, w.shell_aliases, aliases_built hw, hsettled, synthesize_hostnames, hkeys]

end Store

/-- The names of a configuration. Hostnames are distinct. The aliases of a host ascend, and they are those that the
first of its ingresses with aliases sets, hostnames apart. So no name is served twice unless some alias is one of
two hosts, and the names that are reported are all of them. -/
theorem synthesize_names (store : Store) (now : Instant) (defaultService : Option String)
    (resources : List RoutedIngress) :
    let s := store.synthesize now defaultService resources
    let hosts := s.configuration.hosts
    let hostnames := hosts.map (·.hostname)
    hostnames.Nodup ∧
    (∀ v ∈ hosts, v.aliases.Pairwise (· < ·) ∧ ∀ name, name ∈ v.aliases ↔
      name ∈ HostField.aliases.settled resources v.hostname ∧ name ∉ hostnames) ∧
    ((hosts.flatMap VirtualHost.names).Nodup ↔
      hosts.Pairwise fun v w => ∀ name ∈ v.aliases, name ∉ w.aliases) ∧
    s.names.Pairwise (· < ·) ∧ ∀ name, name ∈ s.names ↔ name ∈ hosts.flatMap VirtualHost.names := by
  intro s hosts hostnames
  have hhostnames : hostnames.Nodup := Store.arranged_hosts_named.nodup_names
  have haliases : ∀ v ∈ hosts, v.aliases.Pairwise (· < ·) ∧ ∀ name, name ∈ v.aliases ↔
      name ∈ HostField.aliases.settled resources v.hostname ∧ name ∉ hostnames := by
    intro v hv
    rw [Store.synthesize_aliases hv]
    refine ⟨pairwise_ascending _, fun name => ?_⟩
    rw [mem_ascending, List.mem_filter]
    simp [hostnames, hosts, s]
  have hnames : s.names =
      servedNames (store.arranged now defaultService (admissible store.settings resources)).hosts :=
    Store.synthesize_servedNames
  rw [hnames]
  refine ⟨hhostnames, haliases, ?_, pairwise_servedNames, fun _ => mem_servedNames⟩
  refine nodup_names_iff hhostnames fun v hv => ⟨?_, fun name hname => ?_⟩
  · exact (haliases v hv).1.imp String.ne_of_lt
  · exact (((haliases v hv).2 name).1 hname).2

/-- Two hosts with the same alias. -/
theorem shared_alias :
    let store := Store.withOptions {}
    let site := store.routed (annotated (rootIngress "ns" "site" "a.com" "web") "server-alias" "www.com")
    let shop := store.routed (annotated (rootIngress "ns" "shop" "b.com" "web") "server-alias" "www.com")
    let hosts := (store.synthesize ⟨0, 0⟩ none [site, shop]).configuration.hosts
    hosts.map VirtualHost.names = [["_"], ["a.com", "www.com"], ["b.com", "www.com"]] ∧
      ¬ (hosts.flatMap VirtualHost.names).Nodup := by
  decide +kernel

end IngressPlane
