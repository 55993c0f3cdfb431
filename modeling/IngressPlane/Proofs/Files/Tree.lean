import IngressPlane.Files.Tree
import IngressPlane.Proofs.Tables
import IngressPlane.Proofs.Texts
import Mathlib.Data.List.TakeWhile

/-! What a run of writes leaves in a tree of files: the last contents of each file up to the first path that
cannot be written, and every other file as it was (`read?_writeAll`). A file has the end of its path, wherever
the path leads (`place?_ending`). -/
namespace IngressPlane.FileTree

open Text

variable {t u : FileTree} {path : String} {contents : List UInt8} {entries : List (String × List UInt8)}

/-- The entries that are written: those in front of the first one that cannot be. -/
def writable (t : FileTree) (entries : List (String × List UInt8)) : List (String × List UInt8) :=
  entries.takeWhile fun entry => (t.place? entry.1).isSome

def lastAt? (t : FileTree) (place : String) (entries : List (String × List UInt8)) : Option (List UInt8) :=
  (entries.reverse.find? fun entry => t.place? entry.1 = some place).map (·.2)

/-- What a run of writes leaves under a path, if it writes there at all. -/
def written? (t : FileTree) (entries : List (String × List UInt8)) (path : String) : Option (List UInt8) :=
  (t.place? path).bind fun place => t.lastAt? place (t.writable entries)

section Places
variable (h : t.directories = u.directories)
include h

theorem isDirectory_congr (place : List String) : t.isDirectory place = u.isDirectory place := by
  rw [isDirectory, h, isDirectory]

theorem locate?_congr (place names : List String) : t.locate? place names = u.locate? place names := by
  have henter (place : List String) (name : String) : t.enter? place name = u.enter? place name := by
    simp only [enter?, isDirectory_congr h]
  induction names generalizing place with
  | nil => rfl
  | cons name rest ih =>
    cases rest with
    | nil => rfl
    | cons next rest =>
      have hmore : next :: rest ≠ [] := List.cons_ne_nil next rest
      rw [locate?.eq_3 _ _ _ _ hmore, locate?.eq_3 _ _ _ _ hmore, henter]
      exact bind_congr ih

theorem place?_congr (path : String) : t.place? path = u.place? path := by
  simp only [place?, locate?_congr h, isDirectory_congr h]

theorem writable_congr : t.writable entries = u.writable entries := by
  simp only [writable, place?_congr h]

theorem lastAt?_congr (place : String) : t.lastAt? place entries = u.lastAt? place entries := by
  simp only [lastAt?, place?_congr h]

end Places

theorem write?_eq_some (h : t.write? path contents = some u) : u.directories = t.directories ∧
    ∃ place, t.place? path = some place ∧ u.files = t.files.insert place contents := by
  obtain ⟨place, hplace, rfl⟩ := Option.map_eq_some_iff.1 h
  exact ⟨rfl, place, hplace, rfl⟩

section Runs

theorem lastAt?_cons (place : String) : t.lastAt? place ((path, contents) :: entries) =
    (t.lastAt? place entries).or (if t.place? path = some place then some contents else none) := by
  unfold lastAt?
  rw [List.reverse_cons, List.find?_append, Option.map_or, List.find?_singleton]
  split <;> simp_all

theorem writable_cons : t.writable ((path, contents) :: entries) =
    if (t.place? path).isSome then (path, contents) :: t.writable entries else [] := by
  unfold writable
  rw [List.takeWhile_cons]

/-- A run of writes leaves the directories and, at each place, what is written there last. -/
theorem writeAll_spec (t : FileTree) (entries : List (String × List UInt8)) :
    (t.writeAll entries).1.directories = t.directories ∧ ∀ place, (t.writeAll entries).1.files.get? place =
      (t.lastAt? place (t.writable entries)).or (t.files.get? place) := by
  induction entries generalizing t with
  | nil => exact ⟨rfl, fun _ => rfl⟩
  | cons entry rest ih =>
    obtain ⟨path, contents⟩ := entry
    unfold writeAll
    split
    next u hu =>
      obtain ⟨hdirectories, target, htarget, hfiles⟩ := write?_eq_some hu
      obtain ⟨hkept, hwritten⟩ := ih u
      refine ⟨hkept.trans hdirectories, fun place => ?_⟩
      rw [hwritten, hfiles, Table.get?_insert, lastAt?_congr hdirectories, writable_congr hdirectories,
        writable_cons, htarget, if_pos Option.isSome_some, lastAt?_cons, htarget, Option.or_assoc]
      by_cases hhere : target = place <;> simp [hhere]
    next hnone =>
      have hnowhere : t.place? path = none := Option.map_eq_none_iff.1 hnone
      refine ⟨rfl, fun place => ?_⟩
      rw [writable_cons, hnowhere]
      rfl

theorem read?_writeAll (path : String) : (t.writeAll entries).1.read? path =
    (t.written? entries path).or (t.read? path) := by
  obtain ⟨hdirectories, hfiles⟩ := t.writeAll_spec entries
  unfold read? written?
  rw [place?_congr hdirectories]
  cases t.place? path with
  | none => rfl
  | some place => exact hfiles place

theorem lastAt?_eq_some {place : String} (h : t.lastAt? place entries = some contents) :
    ∃ path, (path, contents) ∈ entries ∧ t.place? path = some place := by
  obtain ⟨⟨path, _⟩, hfind, rfl⟩ := Option.map_eq_some_iff.1 h
  exact ⟨path, List.mem_reverse.1 (List.mem_of_find?_eq_some hfind), by simpa using List.find?_some hfind⟩

/-- What is written under a path is an entry for it, as it is or by another path to the same place. -/
theorem written?_eq_some (h : t.written? entries path = some contents) :
    ∃ other, (other, contents) ∈ entries ∧ t.place? other = t.place? path := by
  obtain ⟨place, hplace, hlast⟩ := Option.bind_eq_some_iff.1 h
  obtain ⟨other, hother, hsame⟩ := lastAt?_eq_some hlast
  exact ⟨other, List.takeWhile_subset _ hother, hsame.trans hplace.symm⟩

theorem writeAll_eq_self_iff : (t.writeAll entries).1 = t ↔
    ∀ path contents, t.written? entries path = some contents → t.read? path = some contents := by
  constructor
  · intro hself path contents hwritten
    have hread : (t.writeAll entries).1.read? path = (t.written? entries path).or (t.read? path) :=
      read?_writeAll path
    rwa [hself, hwritten, Option.some_or] at hread
  · intro h
    obtain ⟨hdirectories, hfiles⟩ := t.writeAll_spec entries
    have htables : (t.writeAll entries).1.files = t.files := by
      refine Table.ext_get? fun place => ?_
      rw [hfiles]
      cases hlast : t.lastAt? place (t.writable entries) with
      | none => rfl
      | some contents =>
        obtain ⟨path, _, hplace⟩ := lastAt?_eq_some hlast
        have hread := h path contents (by rw [written?, hplace, Option.bind_some, hlast])
        rw [read?, hplace, Option.bind_some] at hread
        rw [hread, Option.some_or]
    have hext {a b : FileTree} (hd : a.directories = b.directories) (hf : a.files = b.files) : a = b := by
      cases a
      cases b
      exact FileTree.mk.injEq .. ▸ ⟨hd, hf⟩
    exact hext hdirectories htables

theorem writable_eq_self (hall : (t.writeAll entries).2 = none) : t.writable entries = entries := by
  induction entries generalizing t with
  | nil => rfl
  | cons entry rest ih =>
    unfold writeAll at hall
    split at hall
    next u hu =>
      obtain ⟨hdirectories, target, htarget, _⟩ := write?_eq_some hu
      rw [writable_cons, htarget, if_pos Option.isSome_some, writable_congr hdirectories.symm, ih hall]
    next => cases hall

theorem exists_written? (hall : (t.writeAll entries).2 = none) (h : (path, contents) ∈ entries) :
    ∃ found, t.written? entries path = some found := by
  have hwritable := writable_eq_self hall
  have hplaces : ∀ entry ∈ entries, (t.place? entry.1).isSome := List.takeWhile_eq_self_iff.1 hwritable
  obtain ⟨place, hplace⟩ := Option.isSome_iff_exists.1 (hplaces (path, contents) h)
  have hfound : (entries.reverse.find? fun entry => t.place? entry.1 = some place).isSome :=
    List.find?_isSome.2 ⟨_, List.mem_reverse.2 h, decide_eq_true hplace⟩
  obtain ⟨entry, hentry⟩ := Option.isSome_iff_exists.1 hfound
  exact ⟨entry.2, by rw [written?, hplace, Option.bind_some, hwritable, lastAt?, hentry, Option.map_some]⟩

end Runs

section Endings

theorem getLast?_of_locate? {place names place' : List String} {name : String}
    (h : t.locate? place names = some (place', name)) : names.getLast? = some name := by
  induction names generalizing place with
  | nil => cases h
  | cons first rest ih =>
    cases rest with
    | nil =>
      unfold locate? at h
      split at h
      · obtain ⟨rfl, rfl⟩ := Prod.mk.inj (Option.some.inj h)
        rfl
      · cases h
    | cons next rest =>
      rw [locate?.eq_3 _ _ _ _ (List.cons_ne_nil next rest)] at h
      obtain ⟨entered, _, h⟩ := Option.bind_eq_some_iff.1 h
      rw [List.getLast?_cons_cons]
      exact ih h

theorem place?_ending {ending place : String} (hplain : '/' ∉ ending.toList) {front : String}
    (h : t.place? (front ++ ending) = some place) : ∃ rest, place = rest ++ ending := by
  unfold place? at h
  split at h
  · cases h
  · obtain ⟨⟨directory, name⟩, hlocated, h⟩ := Option.bind_eq_some_iff.1 h
    dsimp only at h
    split at h
    · cases h
    · obtain rfl := Option.some.inj h
      obtain ⟨before, last, _, hpieces⟩ := exists_pieces_append hplain front.toList
      have hname : name = String.ofList last ++ ending := by
        have hlast := getLast?_of_locate? hlocated
        rw [names, String.toList_append, hpieces, List.map_append, List.map_singleton,
          List.getLast?_concat, String.ofList_append, String.ofList_toList] at hlast
        exact (Option.some.inj hlast).symm
      obtain ⟨rest, hjoin⟩ := exists_join_concat "/" directory name
      exact ⟨rest ++ String.ofList last, by rw [hjoin, hname, String.append_assoc]⟩

end Endings
end IngressPlane.FileTree
