import IngressPlane.Routing.VirtualHost
import IngressPlane.Text.Search

/-!
Prefix expansion: `/foo` is to match `/foo` and all under `/foo/`, but not `/foobar`. So its prefix
becomes `/foo/`, and an exact `/foo` is added beside it. Locations that map to another path, that
use regular expressions or that would collide with another location stay as they are.
-/
namespace IngressPlane

open Text

def slashEnded (path : String) : String := if hasSuffix "/" path then path else path ++ "/"

namespace Location

/-- Whether requests are passed on under a path other than the location's. -/
def isMapped (l : Location) : Bool :=
  l.policy.mapping.target ≠ "" && l.policy.mapping.target ≠ l.path

/-- Whether a location is left alone among locations with these keys. -/
def isLeftAs (keys : List (String × PathType)) (l : Location) : Bool :=
  l.pathType ≠ .under || l.isMapped || l.policy.mapping.useRegex
    || (slashEnded l.path ≠ l.path && keys.contains (slashEnded l.path, .under))

def expand (keys : List (String × PathType)) (l : Location) : List Location :=
  if l.path = rootPath then [l]
  else
    let l := { l with ingressPath := l.path }
    if l.isLeftAs keys then [l]
    else
      let under := { l with path := slashEnded l.path }
      if keys.contains (l.path, .exact) then [under] else [under, { l with pathType := .exact }]

/-- Longer paths come first, and of equally long ones the greater path. -/
def sortsBefore (a b : Location) : Bool :=
  if a.path.utf8ByteSize = b.path.utf8ByteSize then b.path ≤ a.path
  else b.path.utf8ByteSize < a.path.utf8ByteSize

end Location

def expandPrefixes (locations : List Location) : List Location :=
  locations.flatMap (Location.expand (locations.map Location.key))

def sortLocations (locations : List Location) : List Location :=
  locations.mergeSort Location.sortsBefore

end IngressPlane
