import IngressPlane.Checking.Checker
import IngressPlane.Shell.Condition
import IngressPlane.Text.AsciiCase

/-!
Signals: how they are named and sent, and what a script wants done when one comes. Signal zero stands
for the end of a script.
-/
namespace IngressPlane.Shell

open Text

inductive Outcome
  | done (m : Machine)
  | failed (m : Machine) (complaint : String)

abbrev Builtin := Machine → List String → Outcome

def Outcome.ok (m : Machine) : Outcome := .done (m.withStatus 0)

def naturalOf? (word : String) : Option Nat :=
  ((numberOf? word).filter fun n => 0 ≤ n && n ≤ 2147483647).map Int.toNat

def illegalNumber (m : Machine) (word : String) : Outcome := .failed m ("Illegal number: " ++ word)

def signalLimit : Nat := 64

def signal? (name : String) : Option Nat :=
  match natural? name.toList with
  | some n => if n ≤ signalLimit then some n else none
  | none =>
    if sameIgnoringAsciiCase name "EXIT" then some 0
    else (ExitStatus.signalNames.find? fun entry => sameIgnoringAsciiCase entry.2 name).map (·.1)

def signalName (n : Nat) : String :=
  if n = 0 then "EXIT" else (ExitStatus.signalNames.lookup n).getD n.repr

def deathNotice? (signal : Nat) : Option String :=
  [(1, "Hangup"), (3, "Quit"), (4, "Illegal instruction"), (5, "Trace/breakpoint trap"),
    (6, "Aborted"), (7, "Bus error"), (8, "Floating point exception"), (9, "Killed"),
    (10, "User defined signal 1"), (11, "Segmentation fault"), (12, "User defined signal 2"),
    (14, "Alarm clock"), (15, "Terminated"), (16, "Stack fault"), (24, "CPU time limit exceeded"),
    (25, "File size limit exceeded"), (26, "Virtual timer expired"), (27, "Profiling timer expired"),
    (29, "I/O possible"), (30, "Power failure"), (31, "Bad system call")].lookup signal

/-- The signals that a process takes no notice of: those of its children, and of the terminal. -/
def unheeded : List Nat := [0, 17, 18, 19, 20, 21, 22, 23, 28]

def Machine.receive (m : Machine) (signal : Nat) : Machine :=
  match m.traps.lookup signal with
  | some "" => m
  | some _ => if signal = 0 || signal = 9 then m else { m with signals := m.signals ++ [signal] }
  | none =>
    if unheeded.contains signal then m
    else { m with status := 128 + signal, progress := .killed signal }

def killUsage : String :=
  "Usage: kill [-s sigspec | -signum | -sigspec] [pid | job]... or\nkill -l [exitstatus]"

/-- Sends a signal to processes, of which the shell itself is the only one that there is. -/
def sendSignal (m : Machine) (signal : Nat) : List String → Outcome
  | [] => .done m
  | target :: rest =>
    if (target.startsWith "%") then .failed m ("No such job: " ++ target)
    else
      let number := match target.toList with
        | '-' :: digits => String.ofList digits
        | _ => target
      match naturalOf? number with
      | none => illegalNumber m target
      | some _ =>
        if target = processNumber || target = "0" then sendSignal (m.receive signal) signal rest
        else sendSignal ((m.complainOf "kill" "No such process\n").withStatus 1) signal rest

def kill : Builtin := fun m words =>
  let send (signal : Nat) (targets : List String) : Outcome :=
    if targets.isEmpty then .failed m killUsage else sendSignal (m.withStatus 0) signal targets
  let listed (n : Nat) : Outcome :=
    let signal := if n < 128 then n else n - 128
    .ok (m.say (signalName signal ++ "\n"))
  match words with
  | [] => .failed m killUsage
  | ["-l"] => .ok (m.say (unlines ("0" :: (List.range' 1 signalLimit).map signalName)))
  | "-l" :: word :: _ =>
    match naturalOf? word with
    | some n => listed n
    | none => illegalNumber m word
  | ["-s"] => .failed m "No arg for -s option"
  | "-s" :: name :: targets =>
    match signal? name with
    | some signal => send signal (if targets.head? = some "--" then targets.drop 1 else targets)
    | none => .failed m ("invalid signal number or name: " ++ name)
  | "--" :: targets => send 15 targets
  | word :: rest =>
    match word.toList with
    | '-' :: name =>
      match signal? (String.ofList name) with
      | some signal => send signal (if rest.head? = some "--" then rest.drop 1 else rest)
      | none => .failed m ("Illegal option -" ++ String.ofList (name.take 1))
    | _ => send 15 (word :: rest)

def singleQuoted (s : String) : String :=
  "'" ++ join "'\"'\"'" (split '\'' s) ++ "'"

/-- Sets what is done on a signal; nothing special without an action. -/
def Machine.withTrap (m : Machine) (signal : Nat) (action : Option String) : Machine :=
  let others := m.traps.filter (·.1 ≠ signal)
  { m with traps :=
      match action with
      | some action => (signal, action) :: others
      | none => others }

def setTraps (action : Option String) : Machine → List String → Machine
  | m, [] => m.withStatus 0
  | m, name :: rest =>
    match signal? name with
    | some signal => setTraps action (m.withTrap signal action) rest
    | none => (m.report "trap" (name ++ ": bad trap")).withStatus 1

def trap : Builtin := fun m words =>
  let words := if words.head? = some "--" then words.drop 1 else words
  match words with
  | [] =>
    let shown := (m.traps.mergeSort fun a b => a.1 ≤ b.1).map fun (signal, action) =>
      "trap -- " ++ singleQuoted action ++ " " ++ signalName signal
    .ok (m.say (unlines shown))
  | [name] => .done (setTraps none m [name])
  | first :: rest =>
    if (natural? first.toList).any (· ≤ signalLimit) then .done (setTraps none m (first :: rest))
    else if first.startsWith "-" && first ≠ "-" then
      .failed m ("Illegal option " ++ String.ofList (first.toList.take 2))
    else .done (setTraps (if first = "-" then none else some first) m rest)

end IngressPlane.Shell
