import IngressPlane.Proofs.Synthesis.Hosts
import IngressPlane.Synthesis.Synthesize

/-! The time of a synthesis shows only in what it reports: a certificate is served whether or not it has expired.
So drafts of the same ingresses are the same at any two times but for their notes, stage by stage, and so are the
names and the configuration (`synthesize_time`). -/
namespace IngressPlane

variable {store : Store} {backends : Table Backend} {fallback : Backend}

theorem certificateFor_time (store : Store) (now later : Instant) (host : String) (ingress : Ingress) :
    (store.certificateFor now host ingress).1 = (store.certificateFor later host ingress).1 := by
  unfold Store.certificateFor
  split <;> rfl

theorem VirtualHost.certify_time (v : VirtualHost) (now later : Instant) (r : RoutedIngress) :
    (v.certify store now r).1 = (v.certify store later r).1 := by
  unfold VirtualHost.certify
  split
  · rfl
  · dsimp only
    rw [certificateFor_time store now later]

theorem mergeRule_time (now later : Instant) {merged merged' : Table VirtualHost × List Diagnostic}
    (h : merged.1 = merged'.1) (rule : RoutedIngress × String) :
    (mergeRule store now merged rule).1 = (mergeRule store later merged' rule).1 := by
  unfold mergeRule
  rw [h]
  cases merged'.1.get? rule.2 with
  | none => exact h
  | some v => exact congrArg (merged'.1.insert rule.2 ·) (VirtualHost.certify_time _ now later rule.1)

theorem foldl_mergeRule_time (now later : Instant) (rules : List (RoutedIngress × String))
    {merged merged' : Table VirtualHost × List Diagnostic} (h : merged.1 = merged'.1) :
    (rules.foldl (mergeRule store now) merged).1 = (rules.foldl (mergeRule store later) merged').1 := by
  induction rules generalizing merged merged' with
  | nil => exact h
  | cons rule rules ih => exact ih (mergeRule_time now later h rule)

theorem buildHosts_time (store : Store) (now later : Instant) (resources : List RoutedIngress)
    (backends : Table Backend) (fallback : Backend) :
    (store.buildHosts now resources backends fallback).1 =
      (store.buildHosts later resources backends fallback).1 := by
  let opened := openedHosts store resources backends fallback
  have hmerged : ((ruleHosts resources).foldl (mergeRule store now) (opened, [])).1 =
      ((ruleHosts resources).foldl (mergeRule store later) (opened, [])).1 :=
    foldl_mergeRule_time now later (ruleHosts resources) rfl
  exact congrArg (fun merged : Table VirtualHost => merged.map (·.dropHostAliases merged.keys)) hmerged

namespace Draft

def unnoted (d : Draft) : Draft := { d with notes := [] }

variable {d d' : Draft}

theorem unnoted_congr (hbackends : d.backends = d'.backends) (hhosts : d.hosts = d'.hosts) :
    d.unnoted = d'.unnoted := by
  unfold unnoted
  rw [hbackends, hhosts]

theorem hosts_of_unnoted (h : d.unnoted = d'.unnoted) : d.hosts = d'.hosts := (Draft.mk.inj h).2.1

theorem backends_of_unnoted (h : d.unnoted = d'.unnoted) : d.backends = d'.backends := (Draft.mk.inj h).1

theorem wire_unnoted (h : d.unnoted = d'.unnoted) (claimed : RoutedIngress × PathClaim) :
    (d.wire claimed).unnoted = (d'.wire claimed).unnoted := by
  unfold wire
  dsimp only
  rw [hosts_of_unnoted h, backends_of_unnoted h]
  split
  · split
    · exact h
    · rfl
  · exact h

theorem addLocations_unnoted (h : d.unnoted = d'.unnoted) (resources : List RoutedIngress) :
    (d.addLocations resources).unnoted = (d'.addLocations resources).unnoted := by
  unfold addLocations
  induction allClaims resources generalizing d d' with
  | nil => exact h
  | cons claimed claims ih => exact ih (wire_unnoted h claimed)

theorem attachCanaries_unnoted (h : d.unnoted = d'.unnoted) (resources : List RoutedIngress) :
    (d.attachCanaries resources).unnoted = (d'.attachCanaries resources).unnoted := by
  unfold attachCanaries
  rw [hosts_of_unnoted h, backends_of_unnoted h]
  split <;> rfl

theorem addStandIns_unnoted (h : d.unnoted = d'.unnoted) (store : Store) :
    (d.addStandIns store).unnoted = (d'.addStandIns store).unnoted := by
  unfold addStandIns
  dsimp only
  rw [hosts_of_unnoted h, backends_of_unnoted h]
  rfl

theorem arrange_unnoted (h : d.unnoted = d'.unnoted) :
    d.markPassthrough.arrange.unnoted = d'.markPassthrough.arrange.unnoted := by
  have hhosts : d.hosts = d'.hosts := hosts_of_unnoted h
  unfold markPassthrough arrange
  refine unnoted_congr ?_ (congrArg (Table.map VirtualHost.arrange) hhosts)
  dsimp only
  rw [hhosts, backends_of_unnoted h]

end Draft

namespace Store

variable (store : Store) (now later : Instant) (defaultService : Option String) (resources : List RoutedIngress)

theorem built_time : (store.built now defaultService resources).unnoted =
    (store.built later defaultService resources).unnoted := by
  refine Draft.unnoted_congr rfl ?_
  exact buildHosts_time store now later resources _ _

theorem shadowed_time : (store.shadowed now defaultService resources).unnoted =
    (store.shadowed later defaultService resources).unnoted :=
  Draft.attachCanaries_unnoted
    (Draft.addLocations_unnoted (store.built_time now later defaultService resources) resources) resources

theorem arranged_time : (store.arranged now defaultService resources).unnoted =
    (store.arranged later defaultService resources).unnoted :=
  Draft.arrange_unnoted
    (Draft.addStandIns_unnoted (store.shadowed_time now later defaultService resources) store)

theorem synthesize_time :
    (store.synthesize now defaultService resources).names =
        (store.synthesize later defaultService resources).names ∧
      (store.synthesize now defaultService resources).configuration =
        (store.synthesize later defaultService resources).configuration := by
  have harranged := store.arranged_time now later defaultService (admissible store.settings resources)
  unfold synthesize configurationOf
  dsimp only
  rw [Draft.hosts_of_unnoted harranged, Draft.backends_of_unnoted harranged]
  exact ⟨rfl, rfl⟩

end Store
end IngressPlane
