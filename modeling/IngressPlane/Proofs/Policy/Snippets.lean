import IngressPlane.Policy.Extract
import IngressPlane.Proofs.Tables

/-! The annotations for snippets and the policy that is read without them. No other policy is read from them, so
a policy whose snippets are dropped is the same whether they are there or not
(`Policy.extract_plain`). -/
namespace IngressPlane

def snippetNames : List String := ["configuration-snippet", "server-snippet", "stream-snippet"]

/-- Annotations without those for snippets. None at all are taken as empty ones. -/
def plainAnnotations (root : String) (annotations : Option (Table String)) : Option (Table String) :=
  some ((annotations.getD .empty).filter fun key _ => !(snippetNames.map (root ++ "/" ++ ·)).contains key)

def ObjectMeta.plain (root : String) (m : ObjectMeta) : ObjectMeta :=
  { m with annotations := plainAnnotations root m.annotations }

namespace AnnotationReader

variable {r : AnnotationReader} {name : String}

def plain (r : AnnotationReader) : AnnotationReader :=
  { r with annotations := plainAnnotations r.root r.annotations }

theorem plain_key : r.plain.key name = r.key name := rfl

section Other
variable (h : name ∉ snippetNames)
include h

theorem plain_value : r.plain.value name = r.value name := by
  have hkept : r.key name ∉ snippetNames.map (r.root ++ "/" ++ ·) := by
    rw [List.mem_map]
    rintro ⟨snippet, hsnippet, heq⟩
    rw [key, String.append_right_inj] at heq
    exact h (heq ▸ hsnippet)
  have hget : r.plain.annotations.bind (·.get? (r.key name)) = r.annotations.bind (·.get? (r.key name)) := by
    have hplain : r.plain.annotations = plainAnnotations r.root r.annotations := rfl
    rw [hplain, plainAnnotations, Option.bind_some, Table.get?_filter_of_keep fun _ => by simpa using hkept]
    cases r.annotations <;> rfl
  unfold value
  rw [plain_key, hget]

theorem plain_string : r.plain.string name = r.string name := by
  rw [string, plain_value h, plain_key, string]

theorem plain_readAs {α : Type} {read : String → Option α} : r.plain.readAs read name = r.readAs read name := by
  rw [readAs, plain_value h, plain_key, readAs]

theorem plain_bool : r.plain.bool name = r.bool name := plain_readAs h

theorem plain_int : r.plain.int name = r.int name := plain_readAs h

theorem plain_list : r.plain.list name = r.list name := congrArg (Text.listItems <$> ·) (plain_string h)

theorem plain_stringOr {fallback : String} : r.plain.stringOr name fallback = r.stringOr name fallback := by
  rw [stringOr, plain_string h, stringOr]

theorem plain_boolOr {fallback : Bool} : r.plain.boolOr name fallback = r.boolOr name fallback := by
  rw [boolOr, plain_bool h, boolOr]

theorem plain_intOr {fallback : Int32} : r.plain.intOr name fallback = r.intOr name fallback := by
  rw [intOr, plain_int h, intOr]

end Other
end AnnotationReader

section Reading
variable (r : AnnotationReader)

open AnnotationReader

theorem Logging.read_plain : Logging.read r.plain = Logging.read r := by
  simp (disch := decide) only [Logging.read, plain_boolOr]

theorem Tracing.read_plain : Tracing.read r.plain = Tracing.read r := by
  simp (disch := decide) only [Tracing.read, plain_bool]

theorem PathMapping.read_plain : PathMapping.read r.plain = PathMapping.read r := by
  simp (disch := decide) only [PathMapping.read, plain_stringOr, plain_boolOr]

theorem HashPolicy.read_plain : HashPolicy.read r.plain = HashPolicy.read r := by
  simp (disch := decide) only [HashPolicy.read, plain_stringOr, plain_boolOr, plain_intOr]

theorem CanaryPolicy.read_plain : CanaryPolicy.read r.plain = CanaryPolicy.read r := by
  have hdeclared : declaredBy r.plain = declaredBy r := by rw [declaredBy, plain_bool (by decide), declaredBy]
  simp (disch := decide) only [CanaryPolicy.read, hdeclared, plain_intOr, plain_stringOr]

theorem Redirection.read_plain : Redirection.read r.plain = Redirection.read r := by
  simp (disch := decide) only [Redirection.read, Redirection.checked, Redirection.permanentCode, plain_key,
    plain_boolOr, plain_string, plain_int]

theorem AffinityPolicy.read_plain : AffinityPolicy.read r.plain = AffinityPolicy.read r := by
  simp (disch := decide) only [AffinityPolicy.read, AffinityCookie.read, AffinityCookie.duration, plain_stringOr,
    plain_boolOr]

theorem CipherPolicy.read_plain : CipherPolicy.read r.plain = CipherPolicy.read r := by
  have hpreference : preference r.plain = preference r := by rw [preference, plain_bool (by decide), preference]
  simp (disch := decide) only [CipherPolicy.read, hpreference, plain_string, plain_key]

theorem Authentication.read_plain (root : String) (owner : ObjectMeta) (store : Store) :
    Authentication.read r.plain (owner.plain root) store = Authentication.read r owner store := by
  have hname (secret : Secret) : fileName (owner.plain root) secret = fileName owner secret := rfl
  have hscope : (owner.plain root).scopeText = owner.scopeText := rfl
  simp (disch := decide) only [Authentication.read, plain_string, plain_stringOr, hname, hscope]

end Reading

namespace Policy

theorem extract_plain (store : Store) (owner : ObjectMeta) :
    (extract store (owner.plain store.options.annotationPrefix)).withoutSnippets =
      (extract store owner).withoutSnippets := by
  let r : AnnotationReader := ⟨store.options.annotationPrefix, owner.annotations⟩
  have hreader : (⟨store.options.annotationPrefix,
    (owner.plain store.options.annotationPrefix).annotations⟩ : AnnotationReader) = r.plain := rfl
  have hscope : (owner.plain store.options.annotationPrefix).scopeText = owner.scopeText := rfl
  unfold extract withoutSnippets
  dsimp only
  rw [hreader, hscope]
  simp (disch := decide) only [readAliases, readProtocol, readDefaultBackend, AnnotationReader.plain_list,
    AnnotationReader.plain_stringOr, AnnotationReader.plain_string, AnnotationReader.plain_boolOr,
    Authentication.read_plain, CanaryPolicy.read_plain, Logging.read_plain, Tracing.read_plain,
    Redirection.read_plain, PathMapping.read_plain, AffinityPolicy.read_plain, CipherPolicy.read_plain,
    HashPolicy.read_plain]
  rfl

end Policy
end IngressPlane
