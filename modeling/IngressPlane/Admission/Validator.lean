import IngressPlane.Admission.Overlap
import IngressPlane.Admission.Screening
import IngressPlane.Checking.Checker
import IngressPlane.Files.Tree
import IngressPlane.Synthesis.Synthesize

/-!
Validation: whether an ingress may be admitted. It is screened, then synthesized together with all
other ingresses; the result may not give one of its paths to another ingress, has to render, and has
to pass the check of the data plane. The store is only read.
-/
namespace IngressPlane

inductive RenderError
  | passwordFile (path : String)
  | refused (reason : String)
  deriving DecidableEq

def RenderError.message : RenderError → String
  | .passwordFile path => "failed to write authentication file " ++ path
  | .refused reason => reason

inductive AdmissionError
  | rejected (violation : Violation)
  | conflict (found : Conflict)
  | render (error : RenderError)
  | check (failure : CheckFailure)
  deriving DecidableEq

def AdmissionError.message : AdmissionError → String
  | .rejected violation => violation.message
  | .conflict found => found.message
  | .render error => "failed to render configuration: " ++ error.message
  | .check failure => "configuration check failed: " ++ failure.message

abbrev Renderer := Settings → Configuration → Except RenderError String

def jsonRenderer : Renderer := fun settings c => .ok (c.render settings)

structure Validator where
  /-- Ingresses of other namespaces are admitted unseen. -/
  watchedScope : Option String := none
  catchAllDisabled : Bool := false
  /-- Renders the configuration of the candidate alone. -/
  candidateOnly : Bool := false
  defaultService : Option String := none
  renderer : Renderer := jsonRenderer
  checker : Checker := jsonChecker

structure Prepared where
  configuration : Configuration
  tested : Nat
  rendered : Nat

structure AdmissionSizes where
  tested : Nat
  rendered : Nat
  bytes : Nat
  deriving DecidableEq

/-- The outcome of a validation, with the files and the text that it leaves behind. -/
structure Validation where
  /-- No sizes come with an ingress that is admitted unseen. -/
  verdict : Except AdmissionError (Option AdmissionSizes)
  files : FileTree
  text : Option String := none

namespace Configuration

/-- The password files of the secured locations, with the last contents for each. -/
def passwordFiles (c : Configuration) : Table (List UInt8) :=
  .ofList ((c.locations.filter fun l => l.policy.auth.secured && l.policy.auth.file ≠ "").map fun l =>
    (l.policy.auth.file, l.policy.auth.contents))

end Configuration

/-- All ingresses as they would be listed with the candidate in the place of its stored version. -/
def Store.listingWith (store : Store) (candidate : RoutedIngress) : List RoutedIngress :=
  store.listing.filter (·.key ≠ candidate.key) ++ [candidate]

namespace Validator

variable (v : Validator)

/-- Whether an ingress is admitted unseen: it is on its way out, or lives in a namespace that is not
watched. -/
def skips (candidate : Ingress) : Bool :=
  candidate.metadata.deleted.isSome
    || (v.watchedScope.isSome && candidate.metadata.scope ≠ v.watchedScope)

def screening (store : Store) : Screening :=
  { catchAllDisabled := v.catchAllDisabled
    root := store.options.annotationPrefix
    settings := store.settings }

/-- Screens the candidate, synthesizes it with all other ingresses, and looks for conflicts. -/
def prepare (store : Store) (now : Instant) (candidate : Ingress) : Except AdmissionError Prepared :=
  match (v.screening store).violation? candidate with
  | some violation => .error (.rejected violation)
  | none =>
    let routed := store.routed candidate.setDefaultPathType
    let resources := store.listingWith routed
    let synthesized := (store.synthesize now v.defaultService resources).configuration
    match synthesized.conflict? routed with
    | some conflict => .error (.conflict conflict)
    | none =>
      if v.candidateOnly then
        .ok {
          configuration := (store.synthesize now v.defaultService [routed]).configuration
          tested := 1
          rendered := resources.length }
      else
        .ok { configuration := synthesized, tested := resources.length, rendered := resources.length }

/-- Writes the password files, then renders the configuration and checks its text. -/
def probe (settings : Settings) (files : FileTree) (p : Prepared) : Validation :=
  match files.writeAll p.configuration.passwordFiles.entries with
  | (files, some path) => { verdict := .error (.render (.passwordFile path)), files }
  | (files, none) =>
    match v.renderer settings p.configuration with
    | .error e => { verdict := .error (.render e), files }
    | .ok text =>
      let content := Text.utf8Bytes text
      { verdict := match v.checker content with
          | .error e => .error (.check e)
          | .ok () => .ok (some ⟨p.tested, p.rendered, content.length⟩)
        files
        text := some text }

def validate (store : Store) (now : Instant) (files : FileTree) (candidate : Ingress) : Validation :=
  if v.skips candidate then { verdict := .ok none, files }
  else
    match v.prepare store now candidate with
    | .error e => { verdict := .error e, files }
    | .ok prepared => v.probe store.settings files prepared

end Validator
end IngressPlane
