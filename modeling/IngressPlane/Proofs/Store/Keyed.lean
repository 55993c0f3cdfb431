import IngressPlane.Controller.Basic
import IngressPlane.Proofs.Tables

/-! What the stored ingresses are found under. A name that every applied ingress is stored under stays its
key, whatever is applied, deleted and reset in between (`keyedBy_run`). Namespace and name are such a name
(`filed_run`), and so is the key that an ingress reports itself, as long as it lives in a namespace
(`keyed_run`). -/
namespace IngressPlane

variable {store : Store} {object : Watched} {key : String} {name : ObjectMeta → String}

def ObjectMeta.filedName (m : ObjectMeta) : String := m.scopeText ++ "/" ++ m.anyName

namespace Watched

/-- Whether the object has a namespace if it is an ingress. -/
def IsPlaced : Watched → Prop
  | .ingress object => object.metadata.scope.isSome
  | _ => True

/-- Whether the object, if it is an ingress, is stored under this name. -/
def GoesUnder (name : ObjectMeta → String) : Watched → Prop
  | .ingress object => ∀ key, (Watched.ingress object).key? = some key → name object.metadata = key
  | _ => True

theorem filedName_of_key? {ingress : Ingress} (hkey : (Watched.ingress ingress).key? = some key) :
    ingress.metadata.filedName = key := by
  obtain ⟨name, hname, rfl⟩ := Option.map_eq_some_iff.1 hkey
  have hname : ingress.metadata.name = some name := hname
  simp [ObjectMeta.filedName, ObjectMeta.anyName, metadata, hname]

theorem resourceKey_of_key? {ingress : Ingress} (hplaced : ingress.metadata.scope.isSome)
    (hkey : (Watched.ingress ingress).key? = some key) : ingress.metadata.resourceKey = key := by
  obtain ⟨scope, hscope⟩ := Option.isSome_iff_exists.1 hplaced
  rw [← filedName_of_key? hkey]
  simp [ObjectMeta.resourceKey, ObjectMeta.filedName, ObjectMeta.scopeText, hscope]

theorem goesUnder_filedName (object : Watched) : object.GoesUnder ObjectMeta.filedName := by
  cases object with
  | ingress i => exact fun _ => filedName_of_key?
  | service _ | endpoints _ | secret _ => trivial

theorem IsPlaced.goesUnder (h : object.IsPlaced) : object.GoesUnder ObjectMeta.resourceKey := by
  cases object with
  | ingress i => exact fun _ => resourceKey_of_key? h
  | service _ | endpoints _ | secret _ => trivial

end Watched

namespace Store

def KeyedBy (name : ObjectMeta → String) (store : Store) : Prop :=
  store.ingresses.Named fun i => name i.metadata

/-- Each ingress is stored under its own key. -/
def Keyed (store : Store) : Prop := store.ingresses.Named fun i => i.metadata.resourceKey

def Filed (store : Store) : Prop := store.KeyedBy ObjectMeta.filedName

theorem KeyedBy.eq_of_name (h : store.KeyedBy name) {i j : Ingress} (hi : i ∈ store.ingresses.values)
    (hj : j ∈ store.ingresses.values) (hsame : name i.metadata = name j.metadata) : i = j := by
  have hget := Table.Named.get?_of_mem h hi
  rw [hsame, Table.Named.get?_of_mem h hj] at hget
  exact (Option.some.inj hget).symm

theorem Filed.unique (h : store.Filed) {i j : Ingress} (hi : i ∈ store.ingresses.values)
    (hj : j ∈ store.ingresses.values) (hscope : i.metadata.scopeText = j.metadata.scopeText)
    (hname : i.metadata.anyName = j.metadata.anyName) : i = j :=
  KeyedBy.eq_of_name h hi hj (by rw [ObjectMeta.filedName, hscope, hname, ObjectMeta.filedName])

namespace KeyedBy

theorem withOptions (options : StoreOptions) : (Store.withOptions options).KeyedBy name :=
  Table.Named.empty

theorem insert? {after : Store} (h : store.KeyedBy name) (hname : object.GoesUnder name)
    (hinsert : store.insert? object = some after) : after.KeyedBy name := by
  obtain ⟨key, hkey, rfl⟩ := Option.map_eq_some_iff.1 hinsert
  cases object with
  | ingress i => exact Table.Named.insert h (hname key hkey)
  | service _ | endpoints _ | secret _ => exact h

theorem delete (h : store.KeyedBy name) (kind : Kind) (scope stem : String) :
    (store.delete kind scope stem).KeyedBy name := by
  cases kind with
  | ingress => exact Table.Named.erase h _
  | service | endpoints | secret => exact h

theorem applyAll (h : store.KeyedBy name) {objects : List Watched}
    (hnames : ∀ o ∈ objects, o.GoesUnder name) : (store.applyAll objects).1.KeyedBy name := by
  induction objects generalizing store with
  | nil => exact h
  | cons object rest ih =>
    unfold Store.applyAll
    split
    next after hafter =>
      have hnext := h.insert? (hnames object List.mem_cons_self) hafter
      exact ih hnext fun o ho => hnames o (List.mem_cons_of_mem object ho)
    next => exact h

theorem deleteAll (h : store.KeyedBy name) (kind : Kind) (removed : List (String × List String)) :
    (store.deleteAll kind removed).KeyedBy name :=
  List.foldlRecOn (motive := Store.KeyedBy name) _ _ h fun _ h _ _ => h.delete kind _ _

theorem reset (h : store.KeyedBy name) (kind : Kind) {objects : List Watched}
    (hnames : ∀ o ∈ objects, o.GoesUnder name) (removed : List (String × List String)) :
    (store.reset kind objects removed).1.KeyedBy name := by
  have happlied := h.applyAll hnames
  unfold Store.reset
  split
  next hall =>
    rw [hall] at happlied
    exact happlied.deleteAll kind removed
  next hsome =>
    rw [hsome] at happlied
    exact happlied

end KeyedBy
end Store

def pathIngress (scope name host path pathType service : String) : Ingress :=
  { metadata := { scope := some scope, name := some name }
    spec := { rules := some [
      { host := some host
        http := some ⟨[
          { backend := { service := some { name := service, port := some { number := some 80 } } }
            path := some path
            pathType }]⟩ }] } }

def rootIngress (scope name host service : String) : Ingress :=
  pathIngress scope name host "/" "Prefix" service

def annotated (ingress : Ingress) (name value : String) : Ingress :=
  { ingress with
    metadata := { ingress.metadata with
      annotations := some (Table.empty.insert (defaultAnnotationPrefix ++ "/" ++ name) value) } }

namespace Store

def holding (ingress : Ingress) : Store :=
  { options := {}, ingresses := Table.empty.insert ingress.metadata.resourceKey ingress }

end Store

namespace Controller

def Event.applied : Event → List Watched
  | .apply object => [object]
  | .delete _ _ _ => []
  | .reset _ objects _ => objects

def Event.IsPlaced : Event → Prop
  | .apply object => object.IsPlaced
  | .delete _ _ _ => True
  | .reset _ objects _ => ∀ o ∈ objects, o.IsPlaced

theorem Event.IsPlaced.applied {event : Event} (h : event.IsPlaced) : ∀ o ∈ event.applied, o.IsPlaced := by
  cases event with
  | apply object => exact List.forall_mem_singleton.2 h
  | delete _ _ _ => exact fun o ho => absurd ho List.not_mem_nil
  | reset _ objects _ => exact h

theorem keyedBy_handle {c : Controller} (h : c.store.KeyedBy name) {event : Event}
    (hnames : ∀ o ∈ event.applied, o.GoesUnder name) : (c.handle event).store.KeyedBy name := by
  cases event with
  | apply object =>
    unfold handle apply
    dsimp only
    split
    next after hafter => exact h.insert? (List.forall_mem_singleton.1 hnames) hafter
    next => exact h
  | delete kind scope stem => exact h.delete kind scope stem
  | reset kind objects removed =>
    have hreset : (c.store.reset kind objects removed).1.KeyedBy name := h.reset kind hnames removed
    unfold handle reset
    dsimp only
    split
    next hall =>
      rw [hall] at hreset
      exact hreset
    next hsome =>
      rw [hsome] at hreset
      exact hreset

/-- After any run of events from an empty store each ingress is stored under the name that all those that are
applied are stored under. -/
theorem keyedBy_run (options : StoreOptions) {events : List Event}
    (hnames : ∀ event ∈ events, ∀ o ∈ event.applied, o.GoesUnder name) :
    (({ store := .withOptions options } : Controller).run events).store.KeyedBy name :=
  List.foldlRecOn (motive := fun c : Controller => c.store.KeyedBy name) events handle (.withOptions options)
    fun _ h event hevent => keyedBy_handle h (hnames event hevent)

theorem keyed_run (options : StoreOptions) {events : List Event}
    (hplaced : ∀ event ∈ events, event.IsPlaced) :
    (({ store := .withOptions options } : Controller).run events).store.Keyed :=
  keyedBy_run options fun event hevent o ho => ((hplaced event hevent).applied o ho).goesUnder

theorem filed_run (options : StoreOptions) (events : List Event) :
    (({ store := .withOptions options } : Controller).run events).store.Filed :=
  keyedBy_run options fun _ _ o _ => o.goesUnder_filedName

end Controller
end IngressPlane
