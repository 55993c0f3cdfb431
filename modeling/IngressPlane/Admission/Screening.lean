import IngressPlane.Resource.Ingress
import IngressPlane.Routing.Settings
import IngressPlane.Store.Basic

/-!
Screening: what an ingress may not ask for under the settings of the cluster, whatever else is
stored.
-/
namespace IngressPlane

open Text

inductive Violation
  | catchAll
  /-- An annotation under the standard root where `root` is to be used. -/
  | standardRoot (root : String)
  | blockedWord (key word : String)
  | snippet (key : String)
  | rateLimit
  deriving DecidableEq

def Violation.message : Violation → String
  | .catchAll =>
    "this deployment is trying to create a catch-all multiclusteringress while catch-all resources "
      ++ "are disabled. Remove '.spec.defaultBackend' or enable catch-all resources"
  | .standardRoot root =>
    "this deployment has a custom annotation prefix defined. Use '" ++ root ++ "' instead of '"
      ++ defaultAnnotationPrefix ++ "'"
  | .blockedWord key word => key ++ " annotation contains invalid word " ++ word
  | .snippet key =>
    key ++ " annotation cannot be used. Snippet directives are disabled by the administrator"
  | .rateLimit =>
    "'global-rate-limit*' annotations require 'global-rate-limit-memcached-host' to be configured"

structure Screening where
  catchAllDisabled : Bool := false
  /-- The root of the annotation keys that are read. -/
  root : String := defaultAnnotationPrefix
  settings : Settings := {}

namespace Screening

variable (s : Screening)

def usesStandardRoot (key : String) : Bool :=
  s.root ≠ defaultAnnotationPrefix && hasPrefix (defaultAnnotationPrefix ++ "/") key

def isRead (key : String) : Bool := hasPrefix (s.root ++ "/") key

def blockedWord? (value : String) : Option String :=
  s.settings.blockedWords.find? (contains value ·)

def isSnippet (key : String) : Bool := hasSuffix "-snippet" key

def limitsRate (key : String) : Bool := hasPrefix (s.root ++ "/global-rate-limit") key

def annotation? (key value : String) : Option Violation :=
  if s.usesStandardRoot key then some (.standardRoot s.root)
  else
    match if s.isRead key then s.blockedWord? value else none with
    | some word => some (.blockedWord key word)
    | none =>
      if !s.settings.allowSnippets && isSnippet key then some (.snippet key)
      else if s.settings.rateLimitHost = "" && s.limitsRate key then some .rateLimit
      else none

/-- The first violation: that of the default backend, then those of the annotations in key order. -/
def violation? (ingress : Ingress) : Option Violation :=
  if s.catchAllDisabled && ingress.spec.defaultBackend.isSome then some .catchAll
  else
    ((ingress.metadata.annotations.map Table.entries).getD []).findSome? fun entry =>
      s.annotation? entry.1 entry.2

end Screening
end IngressPlane
