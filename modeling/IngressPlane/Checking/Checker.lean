import IngressPlane.Json.Reader
import IngressPlane.Text.Blank

/-!
Checkers: whether the data plane would accept a rendered configuration. The standard one asks for a
JSON object.
-/
namespace IngressPlane

inductive ExitStatus
  | code (n : UInt8)
  | signal (n : Nat)
  deriving DecidableEq

namespace ExitStatus

def signalNames : List (Nat × String) := [
  (1, "HUP"), (2, "INT"), (3, "QUIT"), (4, "ILL"), (5, "TRAP"), (6, "ABRT"), (7, "BUS"), (8, "FPE"),
  (9, "KILL"), (10, "USR1"), (11, "SEGV"), (12, "USR2"), (13, "PIPE"), (14, "ALRM"), (15, "TERM"),
  (16, "STKFLT"), (17, "CHLD"), (18, "CONT"), (19, "STOP"), (20, "TSTP"), (21, "TTIN"), (22, "TTOU"),
  (23, "URG"), (24, "XCPU"), (25, "XFSZ"), (26, "VTALRM"), (27, "PROF"), (28, "WINCH"), (29, "IO"),
  (30, "PWR"), (31, "SYS")]

def signalName? (n : Nat) : Option String := (signalNames.find? (·.1 = n)).map ("SIG" ++ ·.2)

def text : ExitStatus → String
  | .code n => "exit status: " ++ n.toNat.repr
  | .signal n => "signal: " ++ n.repr ++ ((signalName? n).map fun name => " (" ++ name ++ ")").getD ""

end ExitStatus

inductive CheckFailure
  | notJson
  | notObject
  | notRun (command : String)
  | failed (status : ExitStatus) (complaint : String)
  | refused (reason : String)
  deriving DecidableEq

def CheckFailure.message : CheckFailure → String
  | .notJson => "configuration is not valid JSON"
  | .notObject => "configuration must be a JSON object"
  | .notRun command => "failed to run " ++ command
  | .failed status complaint =>
    "configuration check failed (" ++ status.text ++ "): " ++ Text.trim complaint
  | .refused reason => reason

abbrev Checker := List UInt8 → Except CheckFailure Unit

def jsonChecker : Checker := fun content =>
  match Json.readBytes content with
  | none => .error .notJson
  | some document => if document.isObject then .ok () else .error .notObject

def refusingChecker (reason : String) : Checker := fun _ => .error (.refused reason)

end IngressPlane
