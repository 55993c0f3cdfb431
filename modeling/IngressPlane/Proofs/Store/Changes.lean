import Mathlib.Data.List.Induction
import IngressPlane.Proofs.Store.Keyed

/-! What a run of events leaves in the store. Each event changes some keys, and under a key there is what the
last change at it leaves (`held?_change`, `held?_run`). The certificate under a key is always that of the secret
there (`certified_run`), so it is found as long as the secret is there and no longer (`keyPair_run`). So it is
enough to know what is left under each key (`store_run_eq`). -/
namespace IngressPlane

variable {store : Store} {kind : Kind} {key : String}

/-- The certificate of a secret, unless it holds none or it cannot be read. -/
def KeyPair.loaded? (key : String) (secret : Secret) : Option KeyPair :=
  match KeyPair.ofSecret key secret with
  | .ok found => found
  | .error _ => none

theorem KeyPair.loaded?_eq_some_iff {secret : Secret} {found : KeyPair} :
    KeyPair.loaded? key secret = some found ↔ KeyPair.ofSecret key secret = .ok (some found) := by
  unfold KeyPair.loaded?
  cases KeyPair.ofSecret key secret <;> simp

inductive Change
  | put (key : String) (object : Watched)
  | clear (kind : Kind) (key : String)

namespace Change

def isAt (kind : Kind) (key : String) : Change → Bool
  | .put k object => object.kind = kind && k = key
  | .clear other k => other = kind && k = key

def left : Change → Option Watched
  | .put _ object => some object
  | .clear _ _ => none

end Change

namespace Store

def change (store : Store) : Change → Store
  | .put key object => store.put key object
  | .clear kind key => store.remove kind key

def held? (store : Store) (kind : Kind) (key : String) : Option Watched :=
  match kind with
  | .ingress => (store.ingresses.get? key).map .ingress
  | .service => (store.services.get? key).map .service
  | .endpoints => (store.endpoints.get? key).map .endpoints
  | .secret => (store.secrets.get? key).map .secret

theorem held?_change (store : Store) (c : Change) (kind : Kind) (key : String) :
    (store.change c).held? kind key = if c.isAt kind key then c.left else store.held? kind key := by
  cases c with
  | put k object =>
    by_cases hk : k = key <;> cases object <;> cases kind <;>
      simp [change, put, putSecret, held?, Change.isAt, Change.left, Watched.kind, Table.get?_insert, hk]
  | clear other k =>
    by_cases hk : k = key <;> cases other <;> cases kind <;>
      simp [change, remove, held?, Change.isAt, Change.left, Table.get?_erase, hk]

/-- Each certificate is that of the secret under the same key, and each secret has its certificate. -/
def Certified (store : Store) : Prop :=
  ∀ key, store.keyPairs.get? key = (store.secrets.get? key).bind (KeyPair.loaded? key)

theorem get?_keyPairs_putSecret (store : Store) (k : String) (secret : Secret) (key : String) :
    (store.putSecret k secret).keyPairs.get? key =
      if k = key then KeyPair.loaded? k secret else store.keyPairs.get? key := by
  unfold putSecret KeyPair.loaded?
  rcases KeyPair.ofSecret k secret with _ | _ | keyPair
  · exact Table.get?_erase _ _ _
  · exact Table.get?_erase _ _ _
  · exact Table.get?_insert _ _ _ _

theorem Certified.change (h : store.Certified) (c : Change) : (store.change c).Certified := by
  intro key
  cases c with
  | put k object =>
    cases object with
    | ingress _ | service _ | endpoints _ => exact h key
    | secret secret =>
      have hsecrets : (store.putSecret k secret).secrets.get? key =
          if k = key then some secret else store.secrets.get? key := Table.get?_insert _ _ _ _
      rw [Store.change, put, get?_keyPairs_putSecret, hsecrets]
      split
      next hk => rw [hk, Option.bind_some]
      next => exact h key
  | clear kind k =>
    cases kind with
    | ingress | service | endpoints => exact h key
    | secret =>
      simp only [Store.change, remove, Table.get?_erase]
      split
      · rfl
      · exact h key

theorem certified_withOptions (options : StoreOptions) : (withOptions options).Certified := fun _ => rfl

/-- Stores with the same settings and stream services that hold the same objects are the same. -/
theorem eq_of_held? {other : Store} (hoptions : store.options = other.options)
    (htcp : store.tcpServices = other.tcpServices) (hudp : store.udpServices = other.udpServices)
    (hstore : store.Certified) (hother : other.Certified)
    (h : ∀ kind key, store.held? kind key = other.held? kind key) : store = other := by
  have hmap {α : Type} {f : α → Watched} (hf : f.Injective) {s t : Table α}
      (hst : ∀ key, (s.get? key).map f = (t.get? key).map f) : s = t :=
    Table.ext_get? fun key => Option.map_injective hf (hst key)
  have hingresses : store.ingresses = other.ingresses :=
    hmap (fun _ _ => Watched.ingress.inj) (h .ingress)
  have hservices : store.services = other.services := hmap (fun _ _ => Watched.service.inj) (h .service)
  have hendpoints : store.endpoints = other.endpoints :=
    hmap (fun _ _ => Watched.endpoints.inj) (h .endpoints)
  have hsecrets : store.secrets = other.secrets := hmap (fun _ _ => Watched.secret.inj) (h .secret)
  have hkeyPairs : store.keyPairs = other.keyPairs :=
    Table.ext_get? fun key => by rw [hstore key, hother key, hsecrets]
  cases store
  cases other
  simp_all only

end Store

namespace Controller

/-- The changes that an event makes, in order. An object without a name is not stored, and ends a reset. -/
def Event.changes : Event → List Change
  | .apply object => stored [object]
  | .delete kind scope name => [.clear kind (scope ++ "/" ++ name)]
  | .reset kind objects removed =>
    stored (objects.takeWhile (·.key?.isSome)) ++
      if objects.all (·.key?.isSome) then
        removed.flatMap fun (scope, names) => names.map fun name => .clear kind (scope ++ "/" ++ name)
      else []
where
  stored (objects : List Watched) : List Change :=
    objects.filterMap fun object => object.key?.map (.put · object)

/-- What a run of events leaves under a key: the object of the last change at it, if that stores one. -/
def leaves? (events : List Event) (kind : Kind) (key : String) : Option Watched :=
  ((events.flatMap Event.changes).filter (·.isAt kind key)).getLast?.bind Change.left

end Controller

namespace Store

open Controller

theorem applyAll_eq (objects : List Watched) (store : Store) :
    store.applyAll objects =
      ((Event.changes.stored (objects.takeWhile (·.key?.isSome))).foldl change store,
        objects.all (·.key?.isSome)) := by
  induction objects generalizing store with
  | nil => rfl
  | cons object rest ih =>
    unfold applyAll insert?
    cases hkey : object.key? with
    | none => simp [hkey, Event.changes.stored]
    | some key =>
      simp only [Option.map_some, ih, hkey, List.takeWhile_cons, Option.isSome_some, if_true, List.all_cons,
        Bool.true_and, Event.changes.stored, List.filterMap_cons, List.foldl_cons]
      rfl

theorem deleteAll_eq (store : Store) (kind : Kind) (removed : List (String × List String)) :
    store.deleteAll kind removed = (removed.flatMap fun (scope, names) =>
      names.map fun name => Change.clear kind (scope ++ "/" ++ name)).foldl change store := by
  unfold deleteAll
  simp only [List.foldl_flatMap, List.foldl_map]
  rfl

theorem reset_eq (store : Store) (kind : Kind) (objects : List Watched)
    (removed : List (String × List String)) :
    (store.reset kind objects removed).1 = (Event.reset kind objects removed).changes.foldl change store := by
  unfold reset Event.changes
  rw [applyAll_eq, List.foldl_append]
  cases objects.all (·.key?.isSome) with
  | true => exact deleteAll_eq _ kind removed
  | false => rfl

theorem reset_snd (store : Store) (kind : Kind) (objects : List Watched)
    (removed : List (String × List String)) :
    (store.reset kind objects removed).2 = objects.all (·.key?.isSome) := by
  unfold reset
  rw [applyAll_eq]
  cases objects.all (·.key?.isSome) <;> rfl

end Store

namespace Controller

variable {c : Controller} {events events' : List Event}

theorem store_handle (c : Controller) (event : Event) :
    (c.handle event).store = event.changes.foldl Store.change c.store := by
  cases event with
  | apply object =>
    unfold handle apply Store.insert? Event.changes Event.changes.stored
    cases hkey : object.key? <;> simp [hkey, Store.change]
  | delete kind scope name => rfl
  | reset kind objects removed =>
    rw [← Store.reset_eq]
    unfold handle reset
    dsimp only
    split <;> simp_all

theorem store_run (c : Controller) (events : List Event) :
    (c.run events).store = (events.flatMap Event.changes).foldl Store.change c.store := by
  unfold run
  induction events generalizing c with
  | nil => rfl
  | cons event rest ih => rw [List.foldl_cons, ih, store_handle, List.flatMap_cons, List.foldl_append]

end Controller

theorem Store.held?_changes (changes : List Change) (store : Store) (kind : Kind) (key : String) :
    (changes.foldl Store.change store).held? kind key =
      match (changes.filter (·.isAt kind key)).getLast? with
      | some last => last.left
      | none => store.held? kind key := by
  induction changes using List.reverseRecOn with
  | nil => rfl
  | append_singleton changes c ih =>
    rw [List.foldl_append, List.foldl_cons, List.foldl_nil, Store.held?_change, List.filter_append, ih]
    cases hat : c.isAt kind key <;> simp [hat]

namespace Controller

variable {events events' : List Event} (options : StoreOptions)

/-- After a run from an empty store each key holds what the run leaves under it. -/
theorem held?_run (events : List Event) (kind : Kind) (key : String) :
    (({ store := .withOptions options } : Controller).run events).store.held? kind key =
      leaves? events kind key := by
  have hempty : (Store.withOptions options).held? kind key = none := by cases kind <;> rfl
  rw [store_run, Store.held?_changes, leaves?, hempty]
  cases ((events.flatMap Event.changes).filter (·.isAt kind key)).getLast? <;> rfl

theorem certified_run (events : List Event) :
    (({ store := .withOptions options } : Controller).run events).store.Certified := by
  rw [store_run]
  exact List.foldlRecOn _ _ (Store.certified_withOptions options) fun _ h c _ => h.change c

/-- After any run from an empty store a certificate is found under a key exactly if there is a secret that it is
loaded from, and the secret there is the one that the run leaves. -/
theorem keyPair_run (events : List Event) (key : String) :
    let store := (({ store := .withOptions options } : Controller).run events).store
    (∀ found, store.keyPair key = .ok found ↔
      ∃ secret, store.secret key = .ok secret ∧ KeyPair.ofSecret key secret = .ok (some found)) ∧
    ∀ secret, store.secret key = .ok secret ↔ leaves? events .secret key = some (.secret secret) := by
  intro store
  have hcertified : store.Certified := certified_run options events
  have hheld : store.held? .secret key = leaves? events .secret key := held?_run options events .secret key
  refine ⟨fun found => ?_, fun secret => ?_⟩
  · simp only [Store.keyPair_eq_ok, Store.secret_eq_ok, hcertified key, Option.bind_eq_some_iff,
      KeyPair.loaded?_eq_some_iff]
  · rw [Store.secret_eq_ok, ← hheld]
    refine ⟨fun hget => Option.map_eq_some_iff.2 ⟨secret, hget, rfl⟩, fun hleft => ?_⟩
    obtain ⟨_, hget, heq⟩ := Option.map_eq_some_iff.1 hleft
    cases heq
    exact hget

theorem options_run (events : List Event) :
    let store := (({ store := .withOptions options } : Controller).run events).store
    store.options = (Store.withOptions options).options ∧ store.tcpServices = [] ∧ store.udpServices = [] := by
  intro store
  have hstore : store = _ := store_run { store := .withOptions options } events
  rw [hstore]
  refine List.foldlRecOn (motive := fun s : Store => s.options = (Store.withOptions options).options ∧
    s.tcpServices = [] ∧ s.udpServices = []) _ _ ⟨rfl, rfl, rfl⟩ fun s h c _ => ?_
  cases c with
  | put key object => cases object <;> exact h
  | clear kind key => cases kind <;> exact h

/-- Runs that leave the same under each key end in the same store. -/
theorem store_run_eq (h : ∀ kind key, leaves? events kind key = leaves? events' kind key) :
    (({ store := .withOptions options } : Controller).run events).store =
      (({ store := .withOptions options } : Controller).run events').store := by
  obtain ⟨hoptions, htcp, hudp⟩ := options_run options events
  obtain ⟨hoptions', htcp', hudp'⟩ := options_run options events'
  refine Store.eq_of_held? (hoptions.trans hoptions'.symm) (htcp.trans htcp'.symm) (hudp.trans hudp'.symm)
    (certified_run options events) (certified_run options events') fun kind key => ?_
  rw [held?_run, held?_run, h]

end Controller
end IngressPlane
