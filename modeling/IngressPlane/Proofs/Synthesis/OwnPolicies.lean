import IngressPlane.Proofs.Store.Listing
import IngressPlane.Proofs.Synthesis.Ownership

/-! Whose policy a location has: that of the primary ingress which owns it, up to the configured hosts
(`synthesizeAll_governed`). Only the redirect and the path mapping may be others, at the root of the catch-all
host that an ingress without rules has taken. -/
namespace IngressPlane

variable {store : Store} {now : Instant} {defaultService : Option String}
  {resources : List RoutedIngress} {l : Location} {host : String} {owner : Owner}

namespace RoutedIngress

/-- How the ingress that owns a location of a host governs it. -/
inductive Governs (r : RoutedIngress) (host : String) (l : Location) : Prop
  /-- It has a rule for the host. -/
  | byRule (hhost : host ∈ r.hostnames) (hpolicy : l.policy.Copies r.policy)
  /-- It has taken the root of the catch-all host, which keeps its redirect and path mapping: none. -/
  | byDefault (hwants : r.wantsRoot = true) (hhost : host = catchAllHost) (hkey : l.key = rootKey)
      (hpolicy : l.policy.Follows r.policy) (hmapping : l.policy.mapping = {}) (hredirect : l.policy.redirect = {})

theorem Governs.follows {r : RoutedIngress} (h : r.Governs host l) : l.policy.Follows r.policy := by
  cases h with
  | byRule _ hpolicy => exact hpolicy.toFollows
  | byDefault _ _ _ hpolicy _ _ => exact hpolicy

end RoutedIngress

namespace Store

theorem governs_wired {ls : List Location}
    (hls : locationsAt? (store.wired now defaultService resources).hosts host = some ls) (hl : l ∈ ls)
    (howner : l.owner = some owner) :
    ∃ r ∈ primaries resources, r.owner = owner ∧ r.Governs host l := by
  rw [locationsAt?_wired] at hls
  obtain ⟨old, hold, rfl⟩ := Option.map_eq_some_iff.1 hls
  obtain ⟨root, rfl, hopen⟩ := openedHosts_cases hold
  refine List.foldlRecOn (motive := fun ls : List Location => ∀ l ∈ ls, ∀ owner, l.owner = some owner →
    ∃ r ∈ primaries resources, r.owner = owner ∧ r.Governs host l) _ _ ?_ ?_ l hl owner howner
  · intro l hl owner howner
    obtain rfl := List.mem_singleton.1 hl
    cases hopen with
    | @placeholder r _ hr hhost _ =>
      exact ⟨r, hr, Option.some.inj howner, .byRule hhost r.policy.copies_forLocation⟩
    | catchAll => cases howner
    | @taken r backend hr hown hrules =>
      have hwants : r.wantsRoot = true := by
        obtain ⟨service, hservice, _⟩ := Option.bind_eq_some_iff.1 hown
        simp [RoutedIngress.wantsRoot, hrules, hservice]
      have hcopied := r.policy.copies_forLocation
      have hfollows : (((catchAllRoot store (store.fallback defaultService)).takeOver r backend).policy).Follows
          r.policy := { hcopied with }
      exact ⟨r, hr, Option.some.inj howner, .byDefault hwants rfl rfl hfollows rfl rfl⟩
  · intro ls hls claimed hclaimed l hl owner howner
    obtain ⟨hmem, hhost⟩ := List.mem_filter.1 hclaimed
    obtain ⟨hr, hclaim⟩ := mem_allClaims.1 hmem
    have hrule : host ∈ claimed.1.hostnames :=
      of_decide_eq_true hhost ▸ RoutedIngress.host_mem_hostnames hclaim
    rcases mem_placeClaim hl with hl | ⟨backend, _, _, rfl | ⟨root, _, _, _, rfl⟩⟩
    · exact hls l hl owner howner
    · exact ⟨claimed.1, hr, Option.some.inj howner, .byRule hrule claimed.1.policy.copies_forLocation⟩
    · exact ⟨claimed.1, hr, Option.some.inj howner, .byRule hrule claimed.1.policy.copies_forLocation⟩

/-- What is configured for a host comes from what is wired for it: a location may lead elsewhere since, and may
have been expanded unless it is a root, but nothing else. -/
theorem exists_wired {h : VirtualHost}
    (hh : h ∈ (store.synthesize now defaultService resources).configuration.hosts) (hl : l ∈ h.locations) :
    ∃ ls, locationsAt? (store.wired now defaultService
        (admissible store.settings resources)).hosts h.hostname = some ls ∧
      ∃ w ∈ ls, l.content.skeleton = w.content.skeleton ∧ (w.key = rootKey → l.key = rootKey) := by
  obtain ⟨f, hf, hlocations⟩ := store.locationsAt?_unexpanded now defaultService
    (admissible store.settings resources)
  obtain ⟨name, hname⟩ := Table.mem_values.1 hh
  obtain rfl : h.hostname = name := arranged_hosts_named name h hname
  rw [arranged_eq, Draft.arrange, Table.get?_map] at hname
  obtain ⟨v, hv, harranged⟩ := Option.map_eq_some_iff.1 hname
  rw [← harranged] at hl
  obtain ⟨x, hx, hexpanded⟩ := mem_arrange.1 hl
  have hls := hlocations h.hostname
  rw [locationsAt?, hv, Option.map_some, eq_comm] at hls
  obtain ⟨ls, hwired, hmapped⟩ := Option.map_eq_some_iff.1 hls
  rw [← hmapped] at hx
  obtain ⟨w, hw, rfl⟩ := List.mem_map.1 hx
  have hskeleton : (f w).content.skeleton = w.content.skeleton := congrArg Location.content (hf w)
  refine ⟨ls, hwired, w, hw, ?_, fun hkey => ?_⟩
  · rw [Location.content_expand hexpanded, hskeleton]
  · have hroot : (f w).key = rootKey := by
      rw [← hkey]
      simpa using congrArg Location.key (hf w)
    have hpath : (f w).path = rootPath := congrArg Prod.fst hroot
    rw [Location.expand_eq, if_pos hpath, List.mem_singleton] at hexpanded
    rw [hexpanded, hroot]

theorem exists_governor {h : VirtualHost}
    (hh : h ∈ (store.synthesize now defaultService resources).configuration.hosts) (hl : l ∈ h.locations)
    (howner : l.owner = some owner) :
    ∃ r ∈ primaries (admissible store.settings resources), r.owner = owner ∧ r.Governs h.hostname l := by
  obtain ⟨ls, hls, w, hw, hsame, hroot⟩ := exists_wired hh hl
  have hwowner : l.owner = w.owner := by simpa using congrArg Location.owner hsame
  have hwpolicy : l.policy = w.policy := by simpa using congrArg Location.policy hsame
  rw [hwowner] at howner
  obtain ⟨r, hr, hrowner, hgoverns⟩ := governs_wired hls hw howner
  refine ⟨r, hr, hrowner, ?_⟩
  cases hgoverns with
  | byRule hhost hpolicy => exact .byRule hhost (hwpolicy ▸ hpolicy)
  | byDefault hwants hhost hkey hpolicy hmapping hredirect =>
    rw [← hwpolicy] at hpolicy hmapping hredirect
    exact .byDefault hwants hhost (hroot hkey) hpolicy hmapping hredirect

theorem exists_owner (h : l ∈ (store.synthesize now defaultService resources).configuration.locations)
    (howner : l.owner = some owner) :
    ∃ r ∈ primaries (admissible store.settings resources), r.owner = owner ∧ l.policy.Follows r.policy := by
  obtain ⟨v, hv, hl⟩ := List.mem_flatMap.1 h
  obtain ⟨r, hr, hrowner, hgoverns⟩ := exists_governor hv hl howner
  exact ⟨r, hr, hrowner, hgoverns.follows⟩

theorem unowned_wired : AllLocations
    (fun l => l.owner = none → l.policy = (catchAllRoot store (store.fallback defaultService)).policy)
    (store.wired now defaultService resources).hosts := by
  refine Draft.allLocations_foldl_wire (fun host ls hls => ?_) fun _ _ _ _ _ => ⟨nofun, fun _ _ _ _ => nofun⟩
  rw [locationsAt?_built] at hls
  exact allLocations_openedHosts
    (P := fun l => l.owner = none → l.policy = (catchAllRoot store (store.fallback defaultService)).policy)
    (fun _ => rfl) (fun _ _ => nofun) (fun _ _ _ _ _ _ _ _ => nofun) host ls hls

theorem policy_cases (h : l ∈ (store.synthesize now defaultService resources).configuration.locations) :
    l.policy = (catchAllRoot store (store.fallback defaultService)).policy ∨
      ∃ r ∈ primaries (admissible store.settings resources), l.policy.Follows r.policy := by
  cases howner : l.owner with
  | some owner =>
    obtain ⟨r, hr, _, hpolicy⟩ := exists_owner h howner
    exact .inr ⟨r, hr, hpolicy⟩
  | none =>
    obtain ⟨v, hv, hl⟩ := List.mem_flatMap.1 h
    obtain ⟨ls, hls, w, hw, hsame, _⟩ := exists_wired hv hl
    have hwowner : l.owner = w.owner := by simpa using congrArg Location.owner hsame
    have hwpolicy : l.policy = w.policy := by simpa using congrArg Location.policy hsame
    exact .inl (hwpolicy.trans (unowned_wired _ ls hls w hw (hwowner.symm.trans howner)))

/-- Each location that has an owner is governed by the one stored ingress with the owner's namespace and name,
under its policy as the settings leave it. Every run leaves a store as it is taken here (`filed_run`). -/
theorem synthesizeAll_governed (hfiled : store.Filed) (now : Instant) (defaultService : Option String)
    {h : VirtualHost} (hh : h ∈ (store.synthesizeAll now defaultService).configuration.hosts)
    (hl : l ∈ h.locations) (howner : l.owner = some owner) :
    ∃ i ∈ store.ingresses.values, (store.routed i).owner = owner ∧ (store.routed i).isCanary = false ∧
      (∀ j ∈ store.ingresses.values,
        j.metadata.scopeText = owner.scope → j.metadata.anyName = owner.name → j = i) ∧
      ((store.routed i).counted store.settings).Governs h.hostname l := by
  obtain ⟨counted, hcounted, hcountedOwner, hgoverns⟩ := exists_governor hh hl howner
  rw [primaries_admissible] at hcounted
  obtain ⟨r, hr, rfl⟩ := List.mem_map.1 hcounted
  obtain ⟨hlisted, hprimary⟩ := mem_primaries.1 hr
  obtain ⟨i, hi, rfl⟩ := mem_listing.1 hlisted
  rw [RoutedIngress.counted_owner] at hcountedOwner
  refine ⟨i, hi, hcountedOwner, hprimary, fun j hj hscope hname => ?_, hgoverns⟩
  rw [← hcountedOwner] at hscope hname
  exact hfiled.unique hj hi hscope hname

/-- A host whose only ingress asks for policies of many kinds. -/
theorem synthesizeAll_governed_of_mapped :
    let site := rootIngress "ns" "site" "a.com" "web"
    let i : Ingress := { site with metadata := { site.metadata with
      annotations := some (.ofList [("nginx.ingress.kubernetes.io/rewrite-target", "/app"),
        ("nginx.ingress.kubernetes.io/backend-protocol", "grpc"),
        ("nginx.ingress.kubernetes.io/enable-access-log", "false"),
        ("nginx.ingress.kubernetes.io/enable-opentracing", "true"),
        ("nginx.ingress.kubernetes.io/http2-push-preload", "true"),
        ("nginx.ingress.kubernetes.io/permanent-redirect", "https://b.com")]) } }
    let store := holding i
    ∃ h ∈ (store.synthesizeAll ⟨0, 0⟩ none).configuration.hosts, h.hostname = "a.com" ∧
      ∃ l ∈ h.locations, l.owner = some (store.routed i).owner ∧
        l.policy.Copies ((store.routed i).counted store.settings).policy ∧
        l.policy.mapping.target = "/app" ∧ l.policy.redirect.url = "https://b.com" ∧
        l.policy.backendProtocol = "GRPC" ∧ l.policy.logs.access = false ∧ l.policy.tracing.enabled = true ∧
        l.policy.http2PushPreload = true := by
  intro site i store
  have hfiled : store.Filed := Table.Named.empty.insert rfl
  have hthere : ∃ h ∈ (store.synthesizeAll ⟨0, 0⟩ none).configuration.hosts, h.hostname = "a.com" ∧
      ∃ l ∈ h.locations, l.owner = some (store.routed i).owner := by
    decide +kernel
  have hvalues : (Policy.extract store i.metadata).mapping.target = "/app" ∧
      (Policy.extract store i.metadata).redirect.url = "https://b.com" ∧
      (Policy.extract store i.metadata).backendProtocol = "GRPC" ∧
      (Policy.extract store i.metadata).logs.access = false ∧
      (Policy.extract store i.metadata).tracing.enabled = true ∧
      (Policy.extract store i.metadata).http2PushPreload = true := by
    decide +kernel
  obtain ⟨h, hh, hhost, l, hl, howner⟩ := hthere
  obtain ⟨j, hj, _, _, _, hgoverns⟩ := synthesizeAll_governed hfiled ⟨0, 0⟩ none hh hl howner
  obtain rfl : j = i := List.mem_singleton.1 hj
  cases hgoverns with
  | byRule _ hpolicy =>
    refine ⟨h, hh, hhost, l, hl, howner, hpolicy, ?_⟩
    rw [hpolicy.mapping, hpolicy.redirect, hpolicy.backendProtocol, hpolicy.logs, hpolicy.tracing,
      hpolicy.http2PushPreload]
    exact hvalues
  | byDefault _ hcatchAll _ _ _ _ => exact absurd (hhost.symm.trans hcatchAll) (by decide)

/-- A rule that claims the root of the catch-all host brings its own path mapping: the root does not keep the
one that it had before. -/
theorem mapped_catchAll_root :
    let i := annotated (rootIngress "ns" "site" "" "web") "rewrite-target" "/app"
    let store := holding i
    (∃ v, (store.built ⟨0, 0⟩ none store.listing).hosts.get? catchAllHost = some v ∧
      v.locations.map (fun l => (l.key, l.policy.mapping.target)) = [(rootKey, "")]) ∧
    ∃ h ∈ (store.synthesizeAll ⟨0, 0⟩ none).configuration.hosts, h.hostname = catchAllHost ∧
      ∃ l ∈ h.locations, l.key = rootKey ∧ l.owner = some (store.routed i).owner ∧
        l.policy.mapping.target = "/app" := by
  decide +kernel

end Store
end IngressPlane
