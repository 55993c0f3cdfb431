import IngressPlane.Checking.Checker
import IngressPlane.Table

/-!
Checking by a command, which is given the path of the configuration as its last argument and accepts
it by leaving with status zero. What commands there are, and what they do, is not said here.
-/
namespace IngressPlane

structure CommandRunner where
  /-- The path of the file that a configuration is written to. -/
  file : String
  /-- How a command ends that is run with arguments beside some files, and what it complains; none if it
  cannot be run. -/
  run? : String → List String → Table (List UInt8) → Option (ExitStatus × List UInt8)

def commandChecker (runner : CommandRunner) (command : String) (arguments : List String) : Checker :=
  fun content =>
    match runner.run? command (arguments ++ [runner.file]) (.ofList [(runner.file, content)]) with
    | none => .error (.notRun command)
    | some (status, complaint) =>
      if status = .code 0 then .ok () else .error (.failed status (Text.decodeLossy complaint))

end IngressPlane
