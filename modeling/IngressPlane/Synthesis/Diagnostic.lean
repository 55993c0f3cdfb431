import IngressPlane.Time.Instant

/-!
Problems met while a configuration is synthesized. None is fatal: something else takes the place of
the value that was not to be had.
-/
namespace IngressPlane

inductive Diagnostic
  | endpoints (backend key reason : String)
  | clusterEndpoint (key reason : String)
  | service (key reason : String)
  | defaultCertificate (host reason : String)
  | certificateExpired (host secret : String) (expiry : Instant)
  | certificateExpiring (host secret : String) (expiry : Instant)
  | aliasConflict (host ingress : String)
  | snippetConflict (host ingress : String)
  | duplicateLocation (host path backend ingress : String)
  | canaryIsPrimary (backend host path : String)
  | unmergedCanary (backend : String)
  deriving DecidableEq

def Diagnostic.message : Diagnostic → String
  | .endpoints backend key reason =>
    "failed to resolve endpoints for service " ++ key ++ " (backend " ++ backend ++ "): " ++ reason
  | .clusterEndpoint key reason =>
    "failed to resolve a cluster endpoint for service " ++ key ++ ": " ++ reason
  | .service key reason => "failed to get service " ++ key ++ ": " ++ reason
  | .defaultCertificate host reason =>
    "using the default certificate for " ++ host ++ ": " ++ reason
  | .certificateExpired host secret expiry =>
    "certificate " ++ secret ++ " for " ++ host ++ " expired at " ++ expiry.plainText
  | .certificateExpiring host secret expiry =>
    "certificate " ++ secret ++ " for " ++ host ++ " expires soon, at " ++ expiry.plainText
  | .aliasConflict host ingress =>
    "aliases already configured for " ++ host ++ "; ignoring those of " ++ ingress
  | .snippetConflict host ingress =>
    "server snippet already configured for " ++ host ++ "; ignoring that of " ++ ingress
  | .duplicateLocation host path backend ingress =>
    "location " ++ host ++ path ++ " already configured with backend " ++ backend ++ "; ignoring "
      ++ ingress
  | .canaryIsPrimary backend host path =>
    "alternative backend " ++ backend ++ " is the primary backend of " ++ host ++ path
  | .unmergedCanary backend =>
    "no primary backend found for alternative backend " ++ backend ++ "; removing it"

end IngressPlane
