import IngressPlane.Policy.Extract
import IngressPlane.Proofs.Results
import IngressPlane.Proofs.Texts
import IngressPlane.Table.Lemmas
import Mathlib.Algebra.BigOperators.Group.List.Basic

/-! Password files that are made of the entries of a secret. Read line by line, and each line up to its first
colon, such a file has the users of the secret and their passwords exactly if no password has a line feed in it:
each line feed adds a line of its own (`Policy.extract_passwordMap`). -/
namespace IngressPlane

open Text

section Reading

def fileLines? (bytes : List UInt8) : Option (List (List UInt8)) :=
  let parts := bytes.splitOn 10
  if parts.getLast? = some [] then some parts.dropLast else none

/-- The user and the password of a line, before and after its first colon. -/
def userEntry? (line : List UInt8) : Option (List UInt8 × List UInt8) :=
  match line.dropWhile (· ≠ 58) with
  | [] => none
  | _ :: password => some (line.takeWhile (· ≠ 58), password)

def fileEntries? (bytes : List UInt8) : Option (List (Option (List UInt8 × List UInt8))) :=
  (fileLines? bytes).map (·.map userEntry?)

theorem splitOn_lines (lines : List (List UInt8)) :
    (lines.flatMap (· ++ [10])).splitOn 10 = lines.flatMap (·.splitOn 10) ++ [[]] := by
  induction lines with
  | nil => rfl
  | cons line rest ih =>
    rw [List.flatMap_cons, List.append_assoc, List.singleton_append, List.splitOn_append_cons_self, ih,
      List.flatMap_cons, List.append_assoc]

theorem fileLines?_lines (lines : List (List UInt8)) :
    fileLines? (lines.flatMap (· ++ [10])) = some (lines.flatMap (·.splitOn 10)) := by
  unfold fileLines?
  dsimp only
  rw [splitOn_lines, List.getLast?_concat, if_pos rfl, List.dropLast_concat]

theorem userEntry?_append {user : List UInt8} (h : 58 ∉ user) (password : List UInt8) :
    userEntry? (user ++ 58 :: password) = some (user, password) := by
  have huser : ∀ byte ∈ user, decide (byte ≠ 58) := fun byte hbyte =>
    decide_eq_true fun heq => h (heq ▸ hbyte)
  unfold userEntry?
  rw [List.dropWhile_append_of_pos huser, List.takeWhile_append_of_pos huser]
  simp

theorem length_splitOn (line : List UInt8) : (line.splitOn 10).length = line.count 10 + 1 := by
  induction line with
  | nil => rfl
  | cons byte rest ih =>
    rw [List.splitOn_cons_eq_if_modifyHead, List.count_cons]
    split <;> simp_all

end Reading

/-- Letters, digits, and a few signs: what the keys of a secret are made of. -/
def IsSecretKey (key : String) : Prop := ∀ c ∈ key.toList, c.isAlphanum ∨ c = '-' ∨ c = '_' ∨ c = '.'

instance (key : String) : Decidable (IsSecretKey key) := List.decidableBAll _ key.toList

theorem IsSecretKey.notMem {key : String} (h : IsSecretKey key) :
    10 ∉ utf8Bytes key ∧ 58 ∉ utf8Bytes key := by
  have hnone {c : Char} (hc : ¬ (c.isAlphanum ∨ c = '-' ∨ c = '_' ∨ c = '.')) : c ∉ key.toList := fun hmem =>
    hc (h c hmem)
  exact ⟨notMem_utf8Bytes (c := '\n') rfl (by decide) (hnone (by decide)),
    notMem_utf8Bytes (c := ':') rfl (by decide) (hnone (by decide))⟩

namespace Secret

variable {secret : Secret}

def entries (secret : Secret) : List (String × List UInt8) := (secret.data.map Table.entries).getD []

/-- Whether all keys are made as they have to be, and all passwords are texts. -/
def HasUsers (secret : Secret) : Prop := ∀ e ∈ secret.entries, IsSecretKey e.1 ∧ (decodeUtf8? e.2).isSome

def userLine (e : String × List UInt8) : List UInt8 := utf8Bytes e.1 ++ 58 :: e.2

end Secret

namespace Authentication

open Secret

variable {secret : Secret} {store : Store} {owner : ObjectMeta}

theorem mapContents_eq (h : secret.HasUsers) :
    mapContents secret = (secret.entries.map userLine).flatMap (· ++ [10]) := by
  unfold mapContents
  rw [List.flatMap_map]
  refine List.flatMap_congr fun e he => ?_
  obtain ⟨text, htext⟩ := Option.isSome_iff_exists.1 (h e he).2
  have hlossy : decodeLossy e.2 = text := by rw [decodeLossy, htext]
  have hcolon : utf8Bytes ":" = [58] := utf8Bytes_eq ":"
  have hend : utf8Bytes "\n" = [10] := utf8Bytes_eq "\n"
  simp only [hlossy, utf8Bytes_append, hcolon, hend, utf8Bytes_of_decodeUtf8? htext, userLine, List.append_assoc,
    List.cons_append, List.nil_append]

/-- Each user has one line, and one more for each line feed in the password. -/
theorem fileLines?_mapContents (h : secret.HasUsers) :
    fileLines? (mapContents secret) = some (secret.entries.flatMap fun e => (userLine e).splitOn 10) := by
  rw [mapContents_eq h, fileLines?_lines, List.flatMap_map]

theorem count_userLine {e : String × List UInt8} (h : IsSecretKey e.1) :
    (userLine e).count 10 = e.2.count 10 := by
  rw [userLine, List.count_append, List.count_eq_zero_of_not_mem h.notMem.1, List.count_cons_of_ne (by decide),
    Nat.zero_add]

/-- There are as many lines as users exactly if no password has a line feed in it. -/
theorem fileEntries?_mapContents (h : secret.HasUsers) :
    fileEntries? (mapContents secret) = some (secret.entries.map fun e => some (utf8Bytes e.1, e.2)) ↔
      ∀ e ∈ secret.entries, 10 ∉ e.2 := by
  unfold fileEntries?
  rw [fileLines?_mapContents h, Option.map_some, Option.some_inj]
  constructor
  · intro heq e he
    -- no user is without a line, so as many lines as users leave no second one to any
    have hlength := congrArg List.length heq
    have hcounts : (secret.entries.map fun e => ((userLine e).splitOn 10).length) =
        secret.entries.map fun e => e.2.count 10 + 1 :=
      List.map_congr_left fun e he => by rw [length_splitOn, count_userLine (h e he).1]
    have hnone : (secret.entries.map fun e => e.2.count 10).sum = 0 := by
      rw [List.length_map, List.length_map, List.length_flatMap, hcounts, List.sum_map_add] at hlength
      simpa using hlength
    exact List.count_eq_zero.1 (List.sum_eq_zero_iff_forall_eq_nat.1 hnone _ (List.mem_map_of_mem he))
  · intro hplain
    have hlines : (secret.entries.flatMap fun e => (userLine e).splitOn 10) = secret.entries.map userLine := by
      rw [← List.flatMap_pure_eq_map]
      refine List.flatMap_congr fun e he => List.splitOn_eq_singleton ?_
      rw [← List.count_eq_zero, count_userLine (h e he).1, List.count_eq_zero]
      exact hplain e he
    rw [hlines, List.map_map]
    exact List.map_congr_left fun e he => userEntry?_append (h e he).1.notMem.2 e.2

theorem read_eq_ok {r : AnnotationReader} {auth : Authentication} (h : read r owner store = .ok auth) :
    ∃ secret, store.secret auth.secret = .ok secret ∧ contentsOf secret auth.secretKind = .ok auth.contents ∧
      auth.file = pathIn store.options.authDirectory (fileName owner secret) := by
  unfold read at h
  obtain ⟨kind, _, h⟩ := bind_eq_ok_iff.1 h
  dsimp only at h
  split at h
  · cases h
  obtain ⟨reference, _, h⟩ := bind_eq_ok_iff.1 h
  split at h
  · obtain ⟨key, hkey, h⟩ := bind_eq_ok_iff.1 h
    obtain ⟨secret, hsecret, h⟩ := bind_eq_ok_iff.1 h
    obtain ⟨contents, hcontents, h⟩ := bind_eq_ok_iff.1 h
    cases h
    exact ⟨secret, mapError_eq_ok_iff.1 hsecret, hcontents, rfl⟩
  · cases h

end Authentication

/-- A password file that is made of the entries of a secret has a line for each user, and one more for each line
feed in a password. It has the users and their passwords exactly if no password has a line feed in it. -/
theorem Policy.extract_passwordMap {store : Store} {owner : ObjectMeta}
    (hkind : (Policy.extract store owner).auth.secretKind = "auth-map") :
    let auth := (Policy.extract store owner).auth
    ∃ secret, store.secret auth.secret = .ok secret ∧ (secret.HasUsers →
      fileLines? auth.contents = some (secret.entries.flatMap fun e => (Secret.userLine e).splitOn 10) ∧
      (fileEntries? auth.contents = some (secret.entries.map fun e => some (utf8Bytes e.1, e.2)) ↔
        ∀ e ∈ secret.entries, 10 ∉ e.2)) := by
  intro auth
  have hauth : auth = orDefault {} (Authentication.read _ owner store) := rfl
  cases hread : Authentication.read ⟨store.options.annotationPrefix, owner.annotations⟩ owner store with
  | error failure =>
    rw [hread] at hauth
    have hnone : auth.secretKind = "" := congrArg Authentication.secretKind hauth
    exact absurd (hnone.symm.trans hkind) (by decide)
  | ok read =>
    obtain rfl : auth = read := by rw [hauth, hread]; rfl
    obtain ⟨secret, hsecret, hcontents, _⟩ := Authentication.read_eq_ok hread
    rw [hkind] at hcontents
    have hmap : auth.contents = Authentication.mapContents secret := (Except.ok.inj hcontents).symm
    refine ⟨secret, hsecret, fun h => ?_⟩
    rw [hmap]
    exact ⟨Authentication.fileLines?_mapContents h, Authentication.fileEntries?_mapContents h⟩

/-- A password of two lines, the second one of which is an entry for another user. -/
theorem Policy.extract_passwordMap_of_two_lines :
    let secret : Secret :=
      { data := some (.ofList [("alice", utf8Bytes "one\nbob:three"), ("bob", utf8Bytes "two")]) }
    let store : Store := { options := {}, secrets := Table.empty.insert "ns/users" secret }
    let owner : ObjectMeta := {
      annotations := some (.ofList [("nginx.ingress.kubernetes.io/auth-type", "basic"),
        ("nginx.ingress.kubernetes.io/auth-secret", "users"),
        ("nginx.ingress.kubernetes.io/auth-secret-type", "auth-map")])
      scope := some "ns" }
    let auth := (Policy.extract store owner).auth
    auth.secretKind = "auth-map" ∧ secret.HasUsers ∧
      fileLines? auth.contents = some [utf8Bytes "alice:one", utf8Bytes "bob:three", utf8Bytes "bob:two"] ∧
      fileEntries? auth.contents ≠ some (secret.entries.map fun e => some (utf8Bytes e.1, e.2)) := by
  intro secret store owner auth
  obtain ⟨hkind, hkey⟩ : auth.secretKind = "auth-map" ∧ auth.secret = "ns/users" := by decide +kernel
  have hentries : secret.entries = [("alice", utf8Bytes "one\nbob:three"), ("bob", utf8Bytes "two")] := rfl
  have husers : secret.HasUsers := by
    have hkeys : IsSecretKey "alice" ∧ IsSecretKey "bob" := by decide
    simpa [Secret.HasUsers, hentries, decodeUtf8?_utf8Bytes] using hkeys
  obtain ⟨stored, hstored, hfile⟩ := Policy.extract_passwordMap hkind
  obtain rfl : secret = stored := by
    rw [hkey] at hstored
    exact Option.some.inj ((Table.get?_insert_self _ _ _).symm.trans (Store.secret_eq_ok.1 hstored))
  obtain ⟨hlines, hread⟩ := hfile husers
  refine ⟨hkind, husers, ?_, fun hpairs => ?_⟩
  · rw [hlines, hentries]
    decide +kernel
  · exact hread.1 hpairs ("alice", utf8Bytes "one\nbob:three") (hentries ▸ List.mem_cons_self) (by decide +kernel)

end IngressPlane
