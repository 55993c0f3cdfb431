import IngressPlane.Shell.Calculation
import IngressPlane.Shell.CountedCondition
import IngressPlane.Shell.FilePrograms
import IngressPlane.Shell.Search
import IngressPlane.Shell.StreamEditor

/-!
The programs by their names.
-/
namespace IngressPlane.Shell

open Text

def conditionProgram (name : String) : Program := fun words m =>
  match CountedCondition.answer m words with
  | .ok value => m.withStatus (if value then 0 else 1)
  | .error e => (m.report name e.message).withStatus 2

/-- A condition in brackets, the closing one of which is an operand. -/
def bracketProgram : Program := fun words m =>
  if words.getLast? = some "]" then conditionProgram "[" words.dropLast m
  else (m.report "[" "missing ']'").withStatus 2

def echoLetters : List String → List Char × List String
  | [] => ([], [])
  | word :: rest =>
    match word.toList with
    | '-' :: letters =>
      if !letters.isEmpty && letters.all ['n', 'e', 'E'].contains then
        let (more, words) := echoLetters rest
        (letters ++ more, words)
      else ([], word :: rest)
    | _ => ([], word :: rest)

def echoProgram : Program := fun words m =>
  let (letters, words) := echoLetters words
  let text := join " " words
  let resolves := (letters.filter (· ≠ 'n')).getLast? = some 'e'
  let (text, ended) := if resolves then Format.resolvedText text else (text, false)
  (m.say (if ended || letters.contains 'n' then text else text ++ "\n")).withStatus 0

def printfProgram : Program := fun words m =>
  match words with
  | [] => misuse "printf" m "missing operand"
  | format :: arguments =>
    let written := Format.formatted format arguments
    let m := (written.complaints ++ written.mistake.toList).foldl (·.report "printf" ·) m
    (m.say written.output).withStatus
      (if written.complaints.isEmpty && written.mistake.isNone then 0 else 1)

/-- The seconds of a pause, which may be a fraction and have a unit. -/
def isDuration (word : String) : Bool :=
  let digits := dropTrailing (['s', 'm', 'h', 'd'].contains ·) word.toList
  !digits.isEmpty && digits.length + 1 ≥ word.length
    && digits.all (fun c => isDigit c || c = '.') && digits.any isDigit

/-- A pause, which takes no time here. -/
def sleep : Program := fun words m =>
  match words.find? (!isDuration ·) with
  | some word => misuse "sleep" m ("invalid time interval " ++ inQuotes word)
  | none => if words.isEmpty then misuse "sleep" m "missing operand" else m.withStatus 0

def programs : List (String × Program) := [
  ("true", fun _ m => m.withStatus 0), ("false", fun _ m => m.withStatus 1),
  ("test", conditionProgram "test"), ("[", bracketProgram), ("echo", echoProgram),
  ("printf", printfProgram), ("pwd", fun _ m => (m.say (m.directory ++ "\n")).withStatus 0),
  ("sleep", sleep), ("grep", Search.run), ("cat", cat), ("tac", backwards), ("head", head),
  ("tail", tail), ("wc", wc), ("tr", tr), ("cut", cut), ("sort", sort), ("uniq", uniq),
  ("basename", basename), ("dirname", dirname), ("rm", remove), ("touch", touch),
  ("cp", copyTo "cp" false), ("mv", copyTo "mv" true), ("tee", tee), ("ls", list),
  ("cmp", compare), ("expr", expr), ("seq", seq), ("sed", StreamEditor.run)]

end IngressPlane.Shell
