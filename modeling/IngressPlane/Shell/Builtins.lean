import IngressPlane.Shell.CountedCondition
import IngressPlane.Shell.Parser
import IngressPlane.Shell.Format
import IngressPlane.Shell.Variables

/-!
Builtins that need no other commands to be run. A complaint of a special builtin leaves the script.
-/
namespace IngressPlane.Shell

open Text

/-! ## Leaving -/

/-- Leaves the script. Without a status it is the last one, or at the end the one it is leaving with. -/
def exitBuiltin : Builtin := fun m words =>
  match words with
  | [] => .done (m.exit (m.leaving.getD m.status))
  | word :: _ =>
    match naturalOf? word with
    | some n => .done (m.exit (n % 256))
    | none => illegalNumber m word

def returnBuiltin : Builtin := fun m words =>
  match words with
  | [] => .done { m with progress := .returning }
  | word :: _ =>
    match naturalOf? word with
    | some n => .done { m with status := n, progress := .returning }
    | none => illegalNumber m word

def leaveLoops (again : Bool) : Builtin := fun m words =>
  let leave (n : Nat) : Outcome :=
    if m.loops = 0 then .ok m
    else .ok { m with progress := .leavingLoops (min n m.loops) again }
  match words with
  | [] => leave 1
  | word :: _ =>
    match (naturalOf? word).filter (· ≠ 0) with
    | some n => leave n
    | none => illegalNumber m word

/-! ## Directories -/

def changeDirectory : Builtin := withLetters ['L', 'P'] fun _ operands m =>
  let target := match operands with
    | [] => (m.valueOf? "HOME").getD ""
    | "-" :: _ => (m.valueOf? "OLDPWD").getD ""
    | path :: _ => path
  if target ≠ "" && !m.hasDirectory target then .failed m ("can't cd to " ++ target)
  else
    let directory := if target = "" then m.directory else m.absolute target
    let moved := ({ m with directory }.assignExported "OLDPWD" m.directory).assignExported "PWD" directory
    .ok (if operands.head? = some "-" then moved.say (directory ++ "\n") else moved)

/-! ## Permissions -/

/-- The permissions that new files do not get, as letters of those that they get. -/
def permissionLetters (mask : Nat) : String :=
  let letters (who : Char) (shift : Nat) : String :=
    let bits := mask / Nat.pow 8 shift % 8
    String.ofList ([who, '='] ++ (if bits / 4 % 2 = 0 then ['r'] else [])
      ++ (if bits / 2 % 2 = 0 then ['w'] else []) ++ (if bits % 2 = 0 then ['x'] else []))
  join "," [letters 'u' 2, letters 'g' 1, letters 'o' 0]

def umaskBuiltin : Builtin := withLetters ['S'] fun letters operands m =>
  match operands with
  | [] =>
    let digits := String.ofList (Nat.toDigits 8 m.umask)
    .ok (m.say (if letters.contains 'S' then permissionLetters m.umask ++ "\n"
      else String.ofList (List.replicate (4 - digits.length) '0') ++ digits ++ "\n"))
  | word :: _ =>
    if word.toList.head?.any isDigit then
      if word.toList.all Arithmetic.isOctal then
        .ok { m with umask := Arithmetic.valueIn 8 word.toList % 512 }
      else illegalNumber m word
    else if word.toList.all "ugoarwxXst=+-,".toList.contains then .ok m
    else .failed m ("Illegal mode: " ++ word)

/-! ## Conditions -/

def conditionStatus (m : Machine) (words : List String) : Outcome :=
  match Condition.answer m false words with
  | .ok true => .done (m.withStatus 0)
  | .ok false => .done (m.withStatus 1)
  | .error e => .failed m e.message

def testBuiltin : Builtin := conditionStatus

def bracketBuiltin : Builtin := fun m words =>
  if words.getLast? = some "]" then conditionStatus m words.dropLast else .failed m "missing ]"

/-! ## Writing -/

def echoBuiltin : Builtin := fun m words => .ok (m.say (Format.echoed words))

def printfBuiltin : Builtin := withLetters [] fun _ operands m =>
  match operands with
  | [] => .failed m "usage: printf format [arg ...]"
  | format :: arguments =>
    let written := Format.formatted format arguments
    let m := written.complaints.foldl (fun m complaint => m.complainOf "printf" complaint) m
    let m := m.withStatus (if written.complaints.isEmpty then 0 else 1)
    match written.mistake with
    | some complaint => .done (((m.complainOf "printf" complaint).say written.output).withStatus 2)
    | none => .done (m.say written.output)

/-! ## Names of commands -/

def shellBuiltins : List String := specialBuiltins ++ [
  "alias", "bg", "cd", "command", "echo", "false", "fg", "getopts", "hash", "jobs", "kill", "printf",
  "pwd", "read", "test", "[", "true", "type", "ulimit", "umask", "unalias", "wait"]

def programPath? (m : Machine) (name : String) : Option String :=
  let places := ((m.valueOf? "PATH").map (split ':')).getD []
  if name.contains '/' then if m.isProgram name then some name else none
  else (places.map fun place => if place = "" then name else place ++ "/" ++ name).find? m.isProgram

def description? (m : Machine) (name : String) : Option String :=
  if (Keyword.ofText? name).isSome then some "is a shell keyword"
  else if m.functions.contains name then some "is a shell function"
  else if specialBuiltins.contains name then some "is a special shell builtin"
  else if shellBuiltins.contains name then some "is a shell builtin"
  else (programPath? m name).map ("is " ++ ·)

def describe (m : Machine) (name : String) : Machine :=
  match description? m name with
  | some text => (m.say (name ++ " " ++ text ++ "\n"))
  | none => (m.say (name ++ ": not found\n")).withStatus 127

def typeBuiltin : Builtin := fun m words => .done (words.foldl describe (m.withStatus 0))

def locate (m : Machine) (name : String) : Machine :=
  match description? m name with
  | none => m.withStatus 127
  | some _ =>
    let isOwn := (Keyword.ofText? name).isSome || m.functions.contains name || shellBuiltins.contains name
    (m.say ((if isOwn then name else (programPath? m name).getD name) ++ "\n")).withStatus 0

/-! ## Jobs and aliases -/

def waitFor : Builtin
  | m, [] => .done m
  | m, word :: rest =>
    if word.startsWith "%" then .failed m ("No such job: " ++ word)
    else
      match naturalOf? word with
      | some n => waitFor (m.withStatus ((m.jobs.lookup n).getD 127)) rest
      | none => illegalNumber m word

def hashBuiltin : Builtin := fun m words =>
  .done ((words.filter fun w => !w.startsWith "-").foldl (fun m name =>
    if (description? m name).isSome then m
    else (m.complainOf "hash" (name ++ ": not found")).withStatus 1) (m.withStatus 0))

def aliasBuiltin (name : String) : Builtin := fun m words =>
  .done ((words.filter fun w => !w.contains '=' && !w.startsWith "-").foldl (fun m word =>
    (m.report name (word ++ " not found")).withStatus 1) (m.withStatus 0))

def noJob : Builtin := fun m words =>
  match words with
  | [] => .failed m "No current job"
  | word :: _ => .failed m ("No such job: " ++ word)

def ulimitBuiltin : Builtin := fun m words =>
  .ok (if words.any fun w => !w.startsWith "-" then m else m.say "unlimited\n")

def withStatusOnly (status : Nat) : Builtin := fun m _ => .done (m.withStatus status)

def plainBuiltins : List (String × Builtin) := [
  (":", withStatusOnly 0), ("true", withStatusOnly 0), ("false", withStatusOnly 1),
  ("exit", exitBuiltin), ("return", returnBuiltin), ("break", leaveLoops false),
  ("continue", leaveLoops true), ("shift", shift), ("set", setBuiltin), ("export", exportBuiltin),
  ("readonly", readonlyBuiltin), ("unset", unset), ("local", localBuiltin), ("trap", trap),
  ("kill", kill), ("read", readBuiltin), ("getopts", getopts), ("cd", changeDirectory),
  ("pwd", fun m _ => .ok (m.say (m.directory ++ "\n"))), ("umask", umaskBuiltin),
  ("test", testBuiltin), ("[", bracketBuiltin), ("echo", echoBuiltin), ("printf", printfBuiltin),
  ("type", typeBuiltin), ("wait", fun m words => waitFor (m.withStatus 0) words),
  ("hash", hashBuiltin), ("alias", aliasBuiltin "alias"), ("unalias", aliasBuiltin "unalias"),
  ("fg", noJob), ("bg", noJob), ("jobs", withStatusOnly 0), ("ulimit", ulimitBuiltin),
  ("times", fun m _ => .ok (m.say "0m0.00s 0m0.00s\n0m0.00s 0m0.00s\n"))]

/-- Runs a builtin. Its complaint names it, and leaves the script if the builtin is special. -/
def runBuiltin (name : String) (special : Bool) (builtin : Builtin) (m : Machine) (words : List String) :
    Machine :=
  match builtin m words with
  | .done m => m
  | .failed m complaint =>
    let m := m.complainOf name complaint
    if special then m.exit 2 else m.withStatus 2

end IngressPlane.Shell
