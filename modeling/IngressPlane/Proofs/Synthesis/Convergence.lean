import IngressPlane.Proofs.Store.Changes
import IngressPlane.Proofs.Store.Listing
import IngressPlane.Proofs.Synthesis.Timeless

/-! Events may come in any order. What is known of the cluster, how it is listed and what is synthesized from it
depends only on what the last change at each key leaves there (`run_converges`), not on the order in which a
table hands out its ingresses, and not on the time. -/
namespace IngressPlane.Controller

/-- Runs from an empty store that leave the same under each key end in stores that agree on everything that is
read from them. -/
theorem run_converges (options : StoreOptions) {events events' : List Event}
    (h : ∀ kind key, leaves? events kind key = leaves? events' kind key) :
    let store := (({ store := .withOptions options } : Controller).run events).store
    let store' := (({ store := .withOptions options } : Controller).run events').store
    (∀ held held' : List Ingress, held.Perm store.ingresses.values → held'.Perm store'.ingresses.values →
      store.listingOf held = store'.listing ∧ store'.listingOf held' = store.listing) ∧
    (∀ key, store.service key = store'.service key ∧ store.secret key = store'.secret key ∧
      store.keyPair key = store'.keyPair key) ∧
    store.defaultKeyPair = store'.defaultKeyPair ∧
    (∀ key port, store.resolve key port = store'.resolve key port) ∧
    (∀ key reference, store.resolveCluster key reference = store'.resolveCluster key reference) ∧
    ∀ now now' defaultService,
      (store.synthesizeAll now defaultService).names = (store'.synthesizeAll now' defaultService).names ∧
      (store.synthesizeAll now defaultService).configuration =
        (store'.synthesizeAll now' defaultService).configuration := by
  intro store store'
  have hsame : store = store' := store_run_eq options h
  have hfiled : store.Filed := filed_run options events
  rw [← hsame]
  refine ⟨fun held held' hheld hheld' => ⟨Store.listingOf_perm hfiled hheld, Store.listingOf_perm hfiled hheld'⟩,
    fun _ => ⟨rfl, rfl, rfl⟩, rfl, fun _ _ => rfl, fun _ _ => rfl, fun now now' defaultService => ?_⟩
  exact store.synthesize_time now now' defaultService store.listing

/-- An old version of an ingress that comes and goes unseen, and another ingress that is deleted before it is
applied again. -/
theorem run_converges_of_late :
    let old := rootIngress "ns" "site" "a.com" "web"
    let site := rootIngress "ns" "site" "b.com" "web"
    let shop := rootIngress "ns" "shop" "c.com" "shop"
    let events := [.apply (.ingress shop), .apply (.ingress old), .apply (.ingress site)]
    let events' := [.apply (.ingress site), .delete .ingress "ns" "shop", .apply (.ingress shop)]
    let store := (({ store := .withOptions {} } : Controller).run events).store
    let store' := (({ store := .withOptions {} } : Controller).run events').store
    (∀ kind key, leaves? events kind key = leaves? events' kind key) ∧
      store.ingresses.keys = ["ns/shop", "ns/site"] ∧
      (store.synthesizeAll ⟨0, 0⟩ none).configuration = (store'.synthesizeAll ⟨1, 0⟩ none).configuration := by
  intro old site shop events events' store store'
  have hshop : (Watched.ingress shop).key? = some "ns/shop" := by decide
  have hold : (Watched.ingress old).key? = some "ns/site" := by decide
  have hsite : (Watched.ingress site).key? = some "ns/site" := by decide
  have hleft : ∀ kind key, leaves? events kind key = leaves? events' kind key := by
    intro kind key
    cases kind with
    | ingress =>
      by_cases hkey : "ns/shop" = key
      · subst hkey
        simp [leaves?, events, events', Event.changes, Event.changes.stored, hshop, hold, hsite, Change.isAt,
          Watched.kind]
      · by_cases hkey' : "ns/site" = key <;>
          simp [leaves?, events, events', Event.changes, Event.changes.stored, hshop, hold, hsite, Change.isAt,
            Watched.kind, hkey, hkey']
    | service | endpoints | secret => rfl
  exact ⟨hleft, by decide +kernel, ((run_converges {} hleft).2.2.2.2.2 ⟨0, 0⟩ ⟨1, 0⟩ none).2⟩

end IngressPlane.Controller
