import IngressPlane.Policy.Basic
import IngressPlane.Policy.Reader
import IngressPlane.Store.Basic

/-!
The authentication that an ingress asks for. Once its kind is given, every failure denies access.
-/
namespace IngressPlane.Authentication

open Text

/-- The path of a file in a directory; an absolute path stays as it is. -/
def pathIn (directory file : String) : String :=
  if hasPrefix "/" file then file
  else if directory = "" || hasSuffix "/" directory then directory ++ file
  else directory ++ "/" ++ file

/-- A reference `name`, `/name` or `namespace/name`, the first two within `scope`. -/
def secretKey? (scope reference : String) : Option String :=
  match splitOnce? '/' reference with
  | none => some (scope ++ "/" ++ reference)
  | some (otherScope, name) =>
    if contains name "/" then none
    else some ((if otherScope = "" then scope else otherScope) ++ "/" ++ name)

def secretRefProblem (reason : String) : ReadFailure :=
  .denied ("error reading secret name from annotation: " ++ reason)

def fileContents (secret : Secret) : Except ReadFailure (List UInt8) :=
  match secret.get? "auth" with
  | some bytes => .ok bytes
  | none =>
    .error (.denied ("the secret " ++ secret.metadata.name.getD ""
      ++ " does not contain a key with value auth"))

/-- One `user:password` line for each entry of a secret. -/
def mapContents (secret : Secret) : List UInt8 :=
  ((secret.data.map Table.entries).getD []).flatMap fun (user, password) =>
    utf8Bytes (user ++ ":" ++ decodeLossy password ++ "\n")

def contentsOf (secret : Secret) (secretKind : String) : Except ReadFailure (List UInt8) :=
  if secretKind = "auth-file" then fileContents secret
  else if secretKind = "auth-map" then .ok (mapContents secret)
  else
    .error (.denied "invalid auth-secret-type in annotation, must be 'auth-file' or 'auth-map'")

/-- The file is named for the identities of the ingress and the secret. -/
def fileName (owner : ObjectMeta) (secret : Secret) : String :=
  owner.scopeText ++ "-" ++ owner.uidText ++ "-" ++ secret.metadata.uidText ++ ".passwd"

def read (r : AnnotationReader) (owner : ObjectMeta) (store : Store) :
    Except ReadFailure Authentication := do
  let kind ← r.string "auth-type"
  if kind ≠ "basic" ∧ kind ≠ "digest" then .error (.denied "invalid authentication type")
  let secretKind := r.stringOr "auth-secret-type" "auth-file"
  let reference ← (r.string "auth-secret").mapError fun e => secretRefProblem e.message
  let key ← match secretKey? owner.scopeText reference with
    | some key => .ok key
    | none => .error (secretRefProblem ("unexpected key format " ++ quoted reference))
  let secret ← (store.secret key).mapError fun e =>
    .denied ("unexpected error reading secret " ++ key ++ ": " ++ e.message)
  let contents ← contentsOf secret secretKind
  return {
    kind
    realm := r.stringOr "auth-realm" ""
    file := pathIn store.options.authDirectory (fileName owner secret)
    secured := true
    secret := key
    secretKind
    contents }

end IngressPlane.Authentication
