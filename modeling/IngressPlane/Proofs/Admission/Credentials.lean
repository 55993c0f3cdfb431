import IngressPlane.Proofs.Admission.PasswordFiles
import IngressPlane.Proofs.Policy.PasswordMaps

/-! Which passwords a location is served with. A password file is named for the identities of an ingress and a
secret. Identities of one length can be read off the end of its path, and of the place where the file is. So no
two ingresses share a file, and every location finds its own passwords in its file (`synthesizeAll_credentials`). -/
namespace IngressPlane

variable {store : Store} {now : Instant} {defaultService : Option String} {l m : Location} {i j : Ingress}
  {files : FileTree} {owner : ObjectMeta} {secret : Secret}

theorem Store.mem_of_secret {key : String} (h : store.secret key = .ok secret) :
    secret ∈ store.secrets.values := Table.mem_values.2 ⟨key, Store.secret_eq_ok.1 h⟩

namespace Authentication

def fileTag (owner : ObjectMeta) (secret : Secret) : String :=
  "-" ++ owner.uidText ++ "-" ++ secret.metadata.uidText ++ ".passwd"

theorem fileTag_inj {other : ObjectMeta} {otherSecret : Secret} {front otherFront : String}
    (hsecret : secret.metadata.uidText.length = otherSecret.metadata.uidText.length)
    (howner : owner.uidText.length = other.uidText.length)
    (h : front ++ fileTag owner secret = otherFront ++ fileTag other otherSecret) :
    owner.uidText = other.uidText := by
  have hfields (front : String) (owner : ObjectMeta) (secret : Secret) : (front ++ fileTag owner secret).toList =
      front.toList ++ ['-'] ++ owner.uidText.toList ++ ['-'] ++ secret.metadata.uidText.toList ++
        ".passwd".toList := by
    simp [fileTag]
  have h := congrArg String.toList h
  rw [hfields, hfields] at h
  -- from the end of the path to the ingress, one field of known length after the other
  obtain ⟨h, _⟩ := List.append_inj' h rfl
  obtain ⟨h, _⟩ := List.append_inj' h (by rwa [String.length_toList, String.length_toList])
  obtain ⟨h, _⟩ := List.append_inj' h rfl
  obtain ⟨_, h⟩ := List.append_inj' h (by rwa [String.length_toList, String.length_toList])
  exact String.toList_inj.1 h

theorem exists_pathIn (directory file : String) : ∃ front, pathIn directory file = front ++ file := by
  unfold pathIn
  split
  · exact ⟨"", String.empty_append.symm⟩
  · split
    · exact ⟨directory, rfl⟩
    · exact ⟨directory ++ "/", rfl⟩

theorem read_file {r : AnnotationReader} {auth : Authentication} (h : read r owner store = .ok auth) :
    ∃ secret ∈ store.secrets.values, ∃ front, auth.file = front ++ fileTag owner secret := by
  obtain ⟨secret, hsecret, _, hfile⟩ := read_eq_ok h
  obtain ⟨front, hfront⟩ := exists_pathIn store.options.authDirectory (fileName owner secret)
  refine ⟨secret, Store.mem_of_secret hsecret, front ++ owner.scopeText, ?_⟩
  rw [hfile, hfront, fileName, fileTag]
  simp only [String.append_assoc]

end Authentication

namespace Store

/-- Whether the ingresses of a store are told apart by their identities, and all identities are of one length. -/
structure Identified (store : Store) (size : Nat) : Prop where
  distinct : (store.ingresses.values.map (·.metadata.uidText)).Nodup
  ingresses : ∀ i ∈ store.ingresses.values, i.metadata.uidText.length = size
  secrets : ∀ s ∈ store.secrets.values, s.metadata.uidText.length = size

/-- Whether no identity has a slash in it. None has that is a UUID. -/
def HasPlainIds (store : Store) : Prop :=
  (∀ i ∈ store.ingresses.values, '/' ∉ i.metadata.uidText.toList) ∧
    ∀ s ∈ store.secrets.values, '/' ∉ s.metadata.uidText.toList

theorem HasPlainIds.fileTag (h : store.HasPlainIds) (hi : i ∈ store.ingresses.values)
    (hsecret : secret ∈ store.secrets.values) : '/' ∉ (Authentication.fileTag i.metadata secret).toList := by
  simp [Authentication.fileTag, h.1 i hi, h.2 secret hsecret]

/-- Whether a location is secured by a stored ingress with a stored secret. -/
structure Secures (store : Store) (i : Ingress) (secret : Secret) (l : Location) : Prop where
  ingress_mem : i ∈ store.ingresses.values
  secret_mem : secret ∈ store.secrets.values
  auth : l.policy.auth = (store.routed i).policy.auth
  file : ∃ front, l.policy.auth.file = front ++ Authentication.fileTag i.metadata secret

theorem exists_secures (hl : l ∈ (store.synthesizeAll now defaultService).configuration.locations)
    (hsecured : l.policy.auth.secured = true) : ∃ i secret, store.Secures i secret l := by
  obtain ⟨r, hr, hauth⟩ := synthesize_auth hl hsecured
  obtain ⟨i, hi, rfl⟩ := mem_listing.1 hr
  let reader : AnnotationReader := ⟨store.options.annotationPrefix, i.metadata.annotations⟩
  have hread : (store.routed i).policy.auth =
    Policy.orDefault {} (Authentication.read reader i.metadata store) := rfl
  cases hresult : Authentication.read reader i.metadata store with
  | ok auth =>
    obtain ⟨secret, hsecret, hfile⟩ := Authentication.read_file hresult
    rw [hresult] at hread
    refine ⟨i, secret, hi, hsecret, hauth.symm, ?_⟩
    rw [← hauth, hread]
    exact hfile
  | error failure =>
    rw [← hauth, hread, hresult] at hsecured
    cases hsecured

theorem Secures.file_ne_empty (h : store.Secures i secret l) : l.policy.auth.file ≠ "" := by
  obtain ⟨front, hfile⟩ := h.file
  rw [hfile]
  exact fun hempty => by simpa [Authentication.fileTag] using congrArg String.toList hempty

theorem Secures.auth_eq {size : Nat} {other : Secret} {front otherFront : String} (hids : store.Identified size)
    (hl : store.Secures i secret l) (hm : store.Secures j other m)
    (h : front ++ Authentication.fileTag i.metadata secret =
      otherFront ++ Authentication.fileTag j.metadata other) : m.policy.auth = l.policy.auth := by
  have hsecrets := (hids.secrets _ hl.secret_mem).trans (hids.secrets _ hm.secret_mem).symm
  have hingresses := (hids.ingresses _ hl.ingress_mem).trans (hids.ingresses _ hm.ingress_mem).symm
  have hsame : i = j := List.inj_on_of_nodup_map hids.distinct hl.ingress_mem hm.ingress_mem
    (Authentication.fileTag_inj hsecrets hingresses h)
  rw [hm.auth, hl.auth, hsame]

theorem Secures.auth_of_file {size : Nat} {other : Secret} (hids : store.Identified size)
    (hl : store.Secures i secret l) (hm : store.Secures j other m)
    (h : m.policy.auth.file = l.policy.auth.file) : m.policy.auth = l.policy.auth := by
  obtain ⟨front, hfile⟩ := hl.file
  obtain ⟨otherFront, hother⟩ := hm.file
  exact hl.auth_eq hids hm (hfile.symm.trans (h.symm.trans hother))

theorem Secures.auth_of_place {size : Nat} {other : Secret} {place : String} (hids : store.Identified size)
    (hplain : store.HasPlainIds) (hl : store.Secures i secret l) (hm : store.Secures j other m)
    (hplace : files.place? l.policy.auth.file = some place)
    (hother : files.place? m.policy.auth.file = some place) : m.policy.auth = l.policy.auth := by
  obtain ⟨front, hfile⟩ := hl.file
  obtain ⟨otherFront, hotherFile⟩ := hm.file
  rw [hfile] at hplace
  rw [hotherFile] at hother
  obtain ⟨rest, hrest⟩ := FileTree.place?_ending (hplain.fileTag hl.ingress_mem hl.secret_mem) hplace
  obtain ⟨otherRest, hotherRest⟩ := FileTree.place?_ending (hplain.fileTag hm.ingress_mem hm.secret_mem) hother
  exact hl.auth_eq hids hm (hrest.symm.trans hotherRest)

end Store

/-- A named file keeps the passwords of a secured location if all locations with this file have the same. -/
theorem Configuration.get?_passwordFiles {c : Configuration} (hl : l ∈ c.locations)
    (hsecured : l.policy.auth.secured = true) (hnamed : l.policy.auth.file ≠ "")
    (hsame : ∀ m ∈ c.locations, m.policy.auth.secured = true → m.policy.auth.file = l.policy.auth.file →
      m.policy.auth = l.policy.auth) :
    c.passwordFiles.get? l.policy.auth.file = some l.policy.auth.contents := by
  refine Table.get?_ofList_of_mem (List.mem_map.2 ⟨l, List.mem_filter.2 ⟨hl, ?_⟩, rfl⟩) fun contents hother => ?_
  · rw [hsecured, decide_eq_true hnamed]
    rfl
  · obtain ⟨m, hm, hentry⟩ := List.mem_map.1 hother
    obtain ⟨hm, hkept⟩ := List.mem_filter.1 hm
    obtain ⟨hfile, rfl⟩ := Prod.mk.inj hentry
    rw [hsame m hm (Bool.and_eq_true_iff.1 hkept).1 hfile]

def passwordIngress (name host uid secretName : String) : Ingress :=
  { rootIngress "ns" name host "web" with
    metadata := {
      annotations := some (.ofList [("nginx.ingress.kubernetes.io/auth-type", "basic"),
        ("nginx.ingress.kubernetes.io/auth-secret", secretName)])
      scope := some "ns"
      name := some name
      uid := some uid } }

def usersSecret (name uid users : String) : Secret where
  data := some (.ofList [("auth", Text.utf8Bytes users)])
  metadata := { scope := some "ns", name := some name, uid := some uid }

def twoSecured : Store where
  options := { authDirectory := "auth" }
  ingresses := .ofList [("ns/site", passwordIngress "site" "a.com" "u1" "creds"),
    ("ns/shop", passwordIngress "shop" "b.com" "u2" "keys")]
  secrets := .ofList [("ns/creds", usersSecret "creds" "s1" "user:live"),
    ("ns/keys", usersSecret "keys" "s2" "guest:open")]

theorem twoSecured_listing : twoSecured.listing =
    [twoSecured.routed (passwordIngress "shop" "b.com" "u2" "keys"),
      twoSecured.routed (passwordIngress "site" "a.com" "u1" "creds")] :=
  Store.listing_of_pairwise (by decide +kernel)

end IngressPlane
