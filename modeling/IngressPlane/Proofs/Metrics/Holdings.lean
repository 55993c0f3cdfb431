import IngressPlane.Proofs.Store.Changes
import IngressPlane.Proofs.Texts

/-! The numbers of stored objects that the metrics report. Objects whose namespaces and names have no slash are
told apart by their keys, so an event changes the number of objects in no namespace that it does not mention
(`count_handle`), and those that it mentions are measured. So what is reported of a namespace is always the
number of objects there (`held_run`). -/
namespace IngressPlane

open Text

namespace Tally

variable {α : Type} [DecidableEq α] {t : Tally α} {subject other : α} {n m : Nat} {entries : List (α × Nat)}

theorem mem_setEntry (h : (entries.map (·.1)).Nodup) :
    (other, m) ∈ setEntry subject n entries ↔ if other = subject then m = n else (other, m) ∈ entries := by
  induction entries with
  | nil => by_cases ho : other = subject <;> simp [setEntry, ho]
  | cons entry rest ih =>
    obtain ⟨habsent, hrest⟩ := List.nodup_cons.1 h
    rw [setEntry]
    split
    next hentry =>
      subst hentry
      have hnone : (entry.1, m) ∉ rest := fun hmem => habsent (List.mem_map.2 ⟨_, hmem, rfl⟩)
      by_cases ho : other = entry.1
      · simp [ho, hnone]
      · have hne : (other, m) ≠ entry := fun heq => ho (congrArg Prod.fst heq)
        simp [ho, hne]
    next hentry =>
      rw [List.mem_cons, ih hrest, List.mem_cons]
      by_cases ho : other = subject
      · have hne : (other, m) ≠ entry := fun heq => hentry ((congrArg Prod.fst heq).symm.trans ho)
        simp only [ho, if_true, or_iff_right_iff_imp]
        exact fun heq => absurd (ho ▸ heq) hne
      · simp only [ho, if_false]

def IsSingle (t : Tally α) : Prop := (t.entries.map (·.1)).Nodup

theorem IsSingle.set (h : t.IsSingle) (subject : α) (n : Nat) : (t.set subject n).IsSingle := by
  obtain ⟨entries⟩ := t
  unfold IsSingle Tally.set at *
  dsimp only at *
  induction entries with
  | nil => simp [setEntry]
  | cons entry rest ih =>
    obtain ⟨habsent, hrest⟩ := List.nodup_cons.1 h
    rw [setEntry]
    split
    next hentry => exact hentry ▸ h
    next hentry =>
      refine List.nodup_cons.2 ⟨fun hmem => ?_, ih hrest⟩
      obtain ⟨⟨_, m⟩, hset, rfl⟩ := List.mem_map.1 hmem
      have hold : (entry.1, m) ∈ rest := by simpa [hentry] using (mem_setEntry hrest).1 hset
      exact habsent (List.mem_map.2 ⟨_, hold, rfl⟩)

end Tally

/-- An object with a namespace and a name, neither of which has a slash in it. -/
structure Watched.IsNamespaced (object : Watched) : Prop where
  scope : ∃ scope, object.metadata.scope = some scope ∧ '/' ∉ scope.toList
  name : ∃ name, object.metadata.name = some name ∧ '/' ∉ name.toList

namespace Watched.IsNamespaced

variable {object other : Watched} {key : String}

theorem isSome_key? (h : object.IsNamespaced) : object.key?.isSome := by
  obtain ⟨name, hname, _⟩ := h.name
  simp [key?, hname]

theorem scope_of_key? {scope name : String} (h : object.IsNamespaced)
    (hkey : object.key? = some (scope ++ "/" ++ name)) : object.metadata.scope = some scope := by
  obtain ⟨ownScope, hscope, hplainScope⟩ := h.scope
  obtain ⟨ownName, hname, hplainName⟩ := h.name
  have htext : ownScope ++ "/" ++ ownName = scope ++ "/" ++ name := by
    simpa [key?, hname, ObjectMeta.scopeText, hscope] using hkey
  have hpieces : split '/' ownScope ++ split '/' ownName = split '/' scope ++ split '/' name := by
    rw [← split_join, ← split_join]
    exact congrArg (split '/') htext
  -- the key has one slash, so there is none in either part
  have hlength := congrArg List.length hpieces
  have hscopePieces := List.length_pos_iff.2 (split_ne_nil '/' scope)
  have hnamePieces := List.length_pos_iff.2 (split_ne_nil '/' name)
  have hone : (split '/' ownScope).length = 1 := by rw [split_of_notMem hplainScope, List.length_singleton]
  have hone' : (split '/' ownName).length = 1 := by rw [split_of_notMem hplainName, List.length_singleton]
  rw [List.length_append, List.length_append] at hlength
  rw [hscope, (split_append_inj hpieces (by omega)).1]

theorem scope_eq_of_key? (h : object.IsNamespaced) (hother : other.IsNamespaced) (hkey : object.key? = some key)
    (hkey' : other.key? = some key) : object.metadata.scope = other.metadata.scope := by
  obtain ⟨scope, hscope, _⟩ := hother.scope
  obtain ⟨name, hname, _⟩ := hother.name
  have htext : key = scope ++ "/" ++ name := by
    simpa [key?, hname, ObjectMeta.scopeText, hscope] using hkey'.symm
  rw [hscope]
  exact h.scope_of_key? (htext ▸ hkey)

end Watched.IsNamespaced

namespace Store

variable {store other : Store} {kind : Kind} {scope : String}

def HoldsNamespaced (store : Store) : Prop :=
  ∀ kind key object, store.held? kind key = some object → object.IsNamespaced ∧ object.key? = some key

theorem count_congr (h : ∀ key object, object.metadata.scope = some scope →
      (store.held? kind key = some object ↔ other.held? kind key = some object)) :
    store.count kind scope = other.count kind scope := by
  have hcount {α : Type} {s t : Table α} (metadata : α → ObjectMeta)
      (hsame : ∀ key v, (metadata v).scope = some scope → (s.get? key = some v ↔ t.get? key = some v)) :
      ((s.values.map metadata).filter (·.scope = some scope)).length =
        ((t.values.map metadata).filter (·.scope = some scope)).length := by
    have htables : (s.filter fun _ v => (metadata v).scope = some scope) =
        t.filter fun _ v => (metadata v).scope = some scope := by
      refine Table.ext_get? fun key => Option.ext fun v => ?_
      rw [Table.get?_filter_eq_some_iff, Table.get?_filter_eq_some_iff, decide_eq_true_iff]
      exact and_congr_left (hsame key v)
    have hvalues := congrArg (·.values.length) htables
    simp only [Table.values_filter] at hvalues
    rw [List.filter_map, List.length_map, List.filter_map, List.length_map]
    exact hvalues
  unfold count metadataOf
  cases kind with
  | ingress => exact hcount _ fun key v hv => by simpa [held?] using h key (.ingress v) hv
  | service => exact hcount _ fun key v hv => by simpa [held?] using h key (.service v) hv
  | endpoints => exact hcount _ fun key v hv => by simpa [held?] using h key (.endpoints v) hv
  | secret => exact hcount _ fun key v hv => by simpa [held?] using h key (.secret v) hv

end Store

namespace Change

variable {c : Change} {kind : Kind} {scope : String}

def IsFiled : Change → Prop
  | .put key object => object.IsNamespaced ∧ object.key? = some key
  | .clear _ _ => True

def Concerns (c : Change) (kind : Kind) (scope : String) : Prop :=
  ∃ object : Watched, object.IsNamespaced ∧ object.metadata.scope = some scope ∧
    ∃ key, object.key? = some key ∧ c.isAt kind key

theorem isAt_of_not_concerns (h : ¬ c.Concerns kind scope) {object : Watched} (hobject : object.IsNamespaced)
    (hscope : object.metadata.scope = some scope) {key : String} (hkey : object.key? = some key) :
    c.isAt kind key = false :=
  Bool.eq_false_iff.2 fun hat => h ⟨object, hobject, hscope, key, hkey, hat⟩

end Change

namespace Store

variable {store : Store} {kind : Kind} {scope : String} {c : Change} {changes : List Change}

theorem holdsNamespaced_withOptions (options : StoreOptions) : (withOptions options).HoldsNamespaced := by
  intro kind key object hheld
  cases kind <;> cases hheld

theorem HoldsNamespaced.change (h : store.HoldsNamespaced) (hc : c.IsFiled) :
    (store.change c).HoldsNamespaced := by
  intro kind key object hheld
  rw [held?_change] at hheld
  split at hheld
  next hat =>
    cases c with
    | put k stored =>
      cases hheld
      obtain rfl : k = key := by simpa using (Bool.and_eq_true_iff.1 hat).2
      exact hc
    | clear _ _ => cases hheld
  next => exact h kind key object hheld

/-- A change elsewhere leaves as many objects in a namespace as there were. -/
theorem count_change (h : store.HoldsNamespaced) (hc : c.IsFiled) (hother : ¬ c.Concerns kind scope) :
    (store.change c).count kind scope = store.count kind scope := by
  refine count_congr fun key object hscope => ⟨fun hheld => ?_, fun hheld => ?_⟩
  · obtain ⟨hobject, hkey⟩ := h.change hc kind key object hheld
    rwa [held?_change, Change.isAt_of_not_concerns hother hobject hscope hkey] at hheld
  · obtain ⟨hobject, hkey⟩ := h kind key object hheld
    rwa [held?_change, Change.isAt_of_not_concerns hother hobject hscope hkey]

theorem HoldsNamespaced.foldl_change (h : store.HoldsNamespaced) (hchanges : ∀ c ∈ changes, c.IsFiled) :
    (changes.foldl Store.change store).HoldsNamespaced :=
  List.foldlRecOn (motive := HoldsNamespaced) _ _ h fun _ h c hc => h.change (hchanges c hc)

theorem count_changes (h : store.HoldsNamespaced) (hchanges : ∀ c ∈ changes, c.IsFiled)
    (hother : ∀ c ∈ changes, ¬ c.Concerns kind scope) :
    (changes.foldl Store.change store).count kind scope = store.count kind scope := by
  induction changes generalizing store with
  | nil => rfl
  | cons c rest ih =>
    obtain ⟨hc, hrest⟩ := List.forall_mem_cons.1 hchanges
    obtain ⟨hotherc, hotherRest⟩ := List.forall_mem_cons.1 hother
    rw [List.foldl_cons, ih (h.change hc) hrest hotherRest, count_change h hc hotherc]

end Store

theorem WatchMetrics.mem_held_measure {m : WatchMetrics} (h : m.held.IsSingle) (store : Store) (kind : Kind)
    (scopes : List String) :
    let after := scopes.foldl (fun m scope => m.measure store kind scope) m
    after.held.IsSingle ∧ ∀ holding n, (holding, n) ∈ after.held.entries ↔
      if holding.kind = kind ∧ holding.scope ∈ scopes then n = store.count kind holding.scope
      else (holding, n) ∈ m.held.entries := by
  induction scopes generalizing m with
  | nil => exact ⟨h, fun holding n => by simp⟩
  | cons scope rest ih =>
    obtain ⟨hsingle, hmem⟩ := ih (m := m.measure store kind scope) (h.set _ _)
    refine ⟨hsingle, fun holding n => (hmem holding n).trans ?_⟩
    have hstep : (holding, n) ∈ (m.measure store kind scope).held.entries ↔
        if holding = ⟨scope, kind⟩ then n = store.count kind scope else (holding, n) ∈ m.held.entries :=
      Tally.mem_setEntry h
    obtain ⟨own, ownKind⟩ := holding
    simp only [hstep, Holding.mk.injEq, List.mem_cons]
    by_cases hkind : ownKind = kind
    · by_cases hown : own = scope <;> simp [hkind, hown]
    · simp [hkind]

namespace Controller

namespace Event

variable {event : Event} {holding : Holding} {c : Change}

def kind : Event → Kind
  | .apply object => object.kind
  | .delete kind _ _ => kind
  | .reset kind _ _ => kind

/-- The namespaces in which an event deletes objects by name. -/
def clearedScopes : Event → List String
  | .apply _ => []
  | .delete _ scope _ => [scope]
  | .reset _ _ removed => removed.map (·.1)

def IsNamespaced (event : Event) : Prop := ∀ o ∈ event.applied, o.kind = event.kind ∧ o.IsNamespaced

def Mentions (event : Event) (holding : Holding) : Prop :=
  event.kind = holding.kind ∧
    ((∃ o ∈ event.applied, o.metadata.scope = some holding.scope) ∨ holding.scope ∈ event.clearedScopes)

instance : Decidable (event.Mentions holding) := inferInstanceAs (Decidable (_ ∧ (_ ∨ _)))

def measuredScopes : Event → List String
  | .apply object => [object.metadata.scopeText]
  | .delete _ scope _ => [scope]
  | .reset _ objects removed => touchedScopes objects removed

theorem IsNamespaced.mentions_iff (h : event.IsNamespaced) :
    event.Mentions holding ↔ holding.kind = event.kind ∧ holding.scope ∈ event.measuredScopes := by
  unfold Mentions
  rw [eq_comm (a := event.kind)]
  refine and_congr_right fun _ => ?_
  cases event with
  | apply object =>
    obtain ⟨scope, hscope, _⟩ := (h object (List.mem_singleton_self _)).2.scope
    simp [applied, clearedScopes, measuredScopes, ObjectMeta.scopeText, hscope, eq_comm]
  | delete kind scope name => simp [applied, clearedScopes, measuredScopes]
  | reset kind objects removed =>
    simp only [applied, clearedScopes, measuredScopes, touchedScopes, mem_ascending, List.mem_append,
      List.mem_filterMap]

theorem changes_cases (hc : c ∈ event.changes) :
    (∃ o ∈ event.applied, ∃ key, o.key? = some key ∧ c = .put key o) ∨
      ∃ scope ∈ event.clearedScopes, ∃ name, c = .clear event.kind (scope ++ "/" ++ name) := by
  have hstored {objects : List Watched} (hc : c ∈ changes.stored objects) :
      ∃ o ∈ objects, ∃ key, o.key? = some key ∧ c = .put key o := by
    obtain ⟨o, ho, hput⟩ := List.mem_filterMap.1 hc
    obtain ⟨key, hkey, rfl⟩ := Option.map_eq_some_iff.1 hput
    exact ⟨o, ho, key, hkey, rfl⟩
  cases event with
  | apply object => exact .inl (hstored hc)
  | delete kind scope name => exact .inr ⟨scope, List.mem_singleton_self _, name, List.mem_singleton.1 hc⟩
  | reset kind objects removed =>
    rcases List.mem_append.1 hc with hput | hclear
    · obtain ⟨o, ho, hkey⟩ := hstored hput
      exact .inl ⟨o, (List.takeWhile_sublist _).mem ho, hkey⟩
    · split at hclear
      · obtain ⟨⟨scope, names⟩, hremoved, hname⟩ := List.mem_flatMap.1 hclear
        obtain ⟨name, _, rfl⟩ := List.mem_map.1 hname
        exact .inr ⟨scope, List.mem_map.2 ⟨_, hremoved, rfl⟩, name, rfl⟩
      · cases hclear

theorem IsNamespaced.isFiled (h : event.IsNamespaced) : ∀ c ∈ event.changes, c.IsFiled := by
  intro c hc
  rcases changes_cases hc with ⟨o, ho, key, hkey, rfl⟩ | ⟨scope, _, name, rfl⟩
  · exact ⟨(h o ho).2, hkey⟩
  · trivial

theorem IsNamespaced.mentions_of_concerns (h : event.IsNamespaced) (hc : c ∈ event.changes)
    (hconcerns : c.Concerns holding.kind holding.scope) : event.Mentions holding := by
  obtain ⟨object, hobject, hscope, key, hkey, hat⟩ := hconcerns
  rcases changes_cases hc with ⟨o, ho, k, hk, rfl⟩ | ⟨scope, hcleared, name, rfl⟩
  · obtain ⟨hkind, rfl⟩ : o.kind = holding.kind ∧ k = key := by simpa [Change.isAt] using hat
    obtain ⟨hown, hplain⟩ := h o ho
    exact ⟨hown.symm.trans hkind, .inl ⟨o, ho, (hplain.scope_eq_of_key? hobject hk hkey).trans hscope⟩⟩
  · obtain ⟨hkind, rfl⟩ : event.kind = holding.kind ∧ scope ++ "/" ++ name = key := by
      simpa [Change.isAt] using hat
    obtain rfl : holding.scope = scope := Option.some.inj (hscope.symm.trans (hobject.scope_of_key? hkey))
    exact ⟨hkind, .inr hcleared⟩

end Event

variable {c : Controller} {event : Event} {events : List Event} {holding : Holding}

theorem holdsNamespaced_handle (hstore : c.store.HoldsNamespaced) (h : event.IsNamespaced) :
    (c.handle event).store.HoldsNamespaced := by
  rw [store_handle]
  exact hstore.foldl_change h.isFiled

/-- An event leaves as many objects of a kind in a namespace as there were, unless it is about them. -/
theorem count_handle (hstore : c.store.HoldsNamespaced) (h : event.IsNamespaced)
    (hother : ¬ event.Mentions holding) :
    (c.handle event).store.count holding.kind holding.scope = c.store.count holding.kind holding.scope := by
  rw [store_handle]
  exact Store.count_changes hstore h.isFiled fun _ hc hconcerns => hother (h.mentions_of_concerns hc hconcerns)

theorem watching_handle (c : Controller) (h : event.IsNamespaced) :
    ∃ counted : WatchMetrics, counted.held = c.watching.held ∧
      (c.handle event).watching = event.measuredScopes.foldl
        (fun m scope => m.measure (c.handle event).store event.kind scope) counted := by
  cases event with
  | apply object =>
    obtain ⟨key, hkey⟩ := Option.isSome_iff_exists.1 (h object (List.mem_singleton_self _)).2.isSome_key?
    refine ⟨c.watching.countApply object.kind object.metadata.scopeText, rfl, ?_⟩
    simp [handle, apply, Store.insert?, hkey, Event.measuredScopes, Event.kind]
  | delete kind scope name => exact ⟨c.watching.countDelete kind scope, rfl, rfl⟩
  | reset kind objects removed =>
    refine ⟨c.watching.countReset kind, rfl, ?_⟩
    have hall : (c.store.reset kind objects removed).2 = true := by
      rw [Store.reset_snd, List.all_eq_true]
      exact fun o ho => (h o ho).2.isSome_key?
    unfold handle reset
    dsimp only
    split
    next => rfl
    next hnone => simp [hnone] at hall

/-- What an event is about is counted anew, and all else stays as it was reported. -/
theorem held_handle (hsingle : c.watching.held.IsSingle) (h : event.IsNamespaced) :
    (c.handle event).watching.held.IsSingle ∧
      ∀ holding n, (holding, n) ∈ (c.handle event).watching.held.entries ↔
        if event.Mentions holding then n = (c.handle event).store.count holding.kind holding.scope
        else (holding, n) ∈ c.watching.held.entries := by
  obtain ⟨counted, hcounted, hwatching⟩ := watching_handle c h
  obtain ⟨hafter, hmem⟩ := WatchMetrics.mem_held_measure (hcounted ▸ hsingle) (c.handle event).store event.kind
    event.measuredScopes
  rw [hwatching]
  refine ⟨hafter, fun holding n => (hmem holding n).trans ?_⟩
  rw [hcounted]
  by_cases hmentions : event.Mentions holding
  · obtain ⟨hkind, hscope⟩ := h.mentions_iff.1 hmentions
    rw [if_pos ⟨hkind, hscope⟩, if_pos hmentions, hkind]
  · rw [if_neg (h.mentions_iff.not.1 hmentions), if_neg hmentions]

/-- Whether what is reported are the numbers of stored objects, for what the events so far were about. -/
structure Reports (c : Controller) (events : List Event) : Prop where
  stored : c.store.HoldsNamespaced
  single : c.watching.held.IsSingle
  held : ∀ holding n, (holding, n) ∈ c.watching.held.entries ↔
    (∃ event ∈ events, event.Mentions holding) ∧ n = c.store.count holding.kind holding.scope

theorem Reports.handle (hc : c.Reports events) (h : event.IsNamespaced) :
    (c.handle event).Reports (events ++ [event]) where
  stored := holdsNamespaced_handle hc.stored h
  single := (held_handle hc.single h).1
  held holding n := by
    have hmore : (∃ e ∈ events ++ [event], e.Mentions holding) ↔
        (∃ e ∈ events, e.Mentions holding) ∨ event.Mentions holding := by
      simp only [List.mem_append, List.mem_singleton, or_and_right, exists_or, exists_eq_left]
    rw [(held_handle hc.single h).2, hmore]
    by_cases hmentions : event.Mentions holding
    · rw [if_pos hmentions, or_iff_right_of_imp fun _ => hmentions, and_iff_right hmentions]
    · rw [if_neg hmentions, hc.held, count_handle hc.stored h hmentions, or_iff_left hmentions]

/-- What is reported of a kind of objects in a namespace, once an event has been about it, is the number of those
that are stored. -/
theorem held_run (options : StoreOptions) (h : ∀ event ∈ events, event.IsNamespaced)
    (holding : Holding) (n : Nat) :
    let after := ({ store := .withOptions options } : Controller).run events
    (holding, n) ∈ after.watching.held.entries ↔
      (∃ event ∈ events, event.Mentions holding) ∧ n = after.store.count holding.kind holding.scope := by
  intro after
  have hreports : after.Reports events := by
    induction events using List.reverseRecOn with
    | nil => exact ⟨Store.holdsNamespaced_withOptions options, List.nodup_nil, fun _ _ => by simp [after, run]⟩
    | append_singleton events event ih =>
      obtain ⟨hevents, hevent⟩ := List.forall_mem_append.1 h
      have hafter : after = (({ store := .withOptions options } : Controller).run events).handle event := by
        simp [after, run]
      rw [hafter]
      exact (ih hevents).handle (hevent event (List.mem_singleton_self event))
  exact hreports.held holding n

/-- A service is replaced, another one comes and goes, and a name that is not there is deleted. -/
theorem held_run_of_services :
    let service (scope name : String) : Watched :=
      .service { metadata := { scope := some scope, name := some name } }
    let events := [.apply (service "ns" "web"), .apply (service "ns" "web"), .delete .service "ns" "api",
      .reset .service [service "ns" "api", service "ops" "web"] [("ns", ["web"]), ("old", ["web"])]]
    let after := ({ store := .withOptions {} } : Controller).run events
    (∀ event ∈ events, event.IsNamespaced) ∧ (⟨"ns", .service⟩, 1) ∈ after.watching.held.entries ∧
      (⟨"old", .service⟩, 0) ∈ after.watching.held.entries := by
  intro service events after
  have hservice {scope name : String} (hscope : '/' ∉ scope.toList) (hname : '/' ∉ name.toList) :
      (service scope name).kind = .service ∧ (service scope name).IsNamespaced :=
    ⟨rfl, ⟨scope, rfl, hscope⟩, ⟨name, rfl, hname⟩⟩
  have hevents : ∀ event ∈ events, event.IsNamespaced := by
    simp [events, Event.IsNamespaced, Event.applied, Event.kind, hservice]
  refine ⟨hevents, (held_run {} hevents _ _).2 ⟨?_, ?_⟩, (held_run {} hevents _ _).2 ⟨?_, ?_⟩⟩ <;> decide +kernel

end Controller
end IngressPlane
