import IngressPlane.Encoding.Sha256
import IngressPlane.Json.Basic
import IngressPlane.Text.Search
import IngressPlane.Text.Utf8

/-!
Cluster-wide settings that shape synthesis and admission, and their checksum: the digest of an
encoding in which each text follows its own length, so that texts cannot run together.
-/
namespace IngressPlane

open Text

structure Settings where
  allowSnippets : Bool := true
  /-- Comma-separated words that may not occur in annotation values. -/
  wordBlocklist : String := ""
  rateLimitHost : String := ""
  loadBalancing : String := "round_robin"
  defaultBackendAccessLog : Bool := false
  checksum : String := ""
  deriving DecidableEq

namespace Settings

def flagByte (b : Bool) : UInt8 := if b then 1 else 0

def lengthPrefixed (s : String) : List UInt8 :=
  let bytes := utf8Bytes s
  Sha256.bigEndian 8 bytes.length ++ bytes

def checksumInput (s : Settings) : List UInt8 :=
  flagByte s.allowSnippets :: (lengthPrefixed s.wordBlocklist ++ lengthPrefixed s.rateLimitHost
    ++ lengthPrefixed s.loadBalancing ++ [flagByte s.defaultBackendAccessLog])

def withChecksum (s : Settings) : Settings :=
  { s with checksum := Sha256.hex (Sha256.digest s.checksumInput) }

def blockedWords (s : Settings) : List String := listItems (trim s.wordBlocklist)

def toJson (s : Settings) : Json :=
  .object [
    ("allowSnippetAnnotations", .bool s.allowSnippets),
    ("annotationValueWordBlocklist", .string s.wordBlocklist),
    ("globalRateLimitMemcachedHost", .string s.rateLimitHost),
    ("loadBalancing", .string s.loadBalancing),
    ("enableAccessLogForDefaultBackend", .bool s.defaultBackendAccessLog),
    ("checksum", .string s.checksum)]

end Settings
end IngressPlane
