import IngressPlane.Shell.Octets
import IngressPlane.Shell.Source
import IngressPlane.Table
import IngressPlane.Text.Decimal
import IngressPlane.Text.Search

/-!
The state of a running shell: its parameters and variables, the files and what the descriptors are
connected to, and whether and how it goes on.
-/
namespace IngressPlane.Shell

open Text

inductive FileTrouble
  | missing
  | directory
  deriving DecidableEq

def FileTrouble.text : FileTrouble → String
  | .missing => "No such file or directory"
  | .directory => "Is a directory"

def FileTrouble.about (path : String) (trouble : FileTrouble) : String := path ++ ": " ++ trouble.text

inductive Target
  | nothing
  | output
  | errors
  | file (path : String)
  | pipe (number : Nat)
  deriving DecidableEq

structure OpenFile where
  target : Target
  /-- Where the next octet is read or written. -/
  place : Nat := 0
  append : Bool := false

structure Variable where
  value : Option String := none
  exported : Bool := false
  isFixed : Bool := false

inductive Progress
  | running
  /-- Leaves so many loops, the outermost of which may go on. -/
  | leavingLoops (count : Nat) (again : Bool)
  /-- Leaves a function or a file of commands. -/
  | returning
  | exiting
  | killed (signal : Nat)
  deriving DecidableEq

def settingNames : List (String × Char) := [
  ("errexit", 'e'), ("noglob", 'f'), ("ignoreeof", 'I'), ("interactive", 'i'), ("monitor", 'm'),
  ("noexec", 'n'), ("stdin", 's'), ("xtrace", 'x'), ("verbose", 'v'), ("vi", 'V'), ("emacs", 'E'),
  ("noclobber", 'C'), ("allexport", 'a'), ("notify", 'b'), ("nounset", 'u'), ("privileged", 'p')]

structure Machine where
  /-- The name of the script. -/
  zero : String
  /-- The name by which the program that is running has been called. -/
  invokedAs : String := ""
  arguments : List String := []
  bindings : Table Variable := .empty
  functions : Table Command := .empty
  /-- What is to be done on signals, and at the end of the script on signal zero. -/
  traps : List (Nat × String) := []
  /-- The signals that have come and that something is to be done about. -/
  signals : List Nat := []
  /-- The status that a shell is leaving with while it runs what is to be done at its end. -/
  leaving : Option Nat := none
  /-- The letters of the settings that are switched on. -/
  settings : List Char := []
  status : Nat := 0
  /-- The status of the last command whose output has been used since the current command began. -/
  outputStatus : Nat := 0
  progress : Progress := .running
  /-- The line of the current command. -/
  line : Nat := 1
  /-- The line up to which the script has been read. -/
  reached : Nat := 1
  /-- The command that a script inside of this one is run by. -/
  within : Option String := none
  /-- How many loops and functions are being run. -/
  loops : Nat := 0
  calls : Nat := 0
  /-- The variables of the current function, with what they were before. -/
  locals : List (String × Option Variable) := []
  documents : Array Word := #[]
  /-- The commands that have run in the background with their status, the last one first. -/
  jobs : List (Nat × Nat) := []
  directory : String := "/"
  umask : Nat := 0o022
  /-- How many letters of an option word have been read. -/
  lettersRead : Nat := 0
  files : Table String := .empty
  pipes : Array String := #[]
  opened : Array OpenFile := #[]
  /-- The descriptors with the number of what each is connected to. -/
  descriptors : List (Nat × Nat) := []
  output : String := ""
  errors : String := ""

def processNumber : String := "4242"

def systemDirectories : List String := [
  "/", "/bin", "/dev", "/etc", "/home", "/opt", "/proc", "/root", "/sbin", "/sys", "/tmp", "/usr",
  "/usr/bin", "/usr/lib", "/usr/local", "/usr/sbin", "/usr/share", "/var", "/var/lib", "/var/log",
  "/var/run"]

/-- The programs that can be run from a directory of programs. -/
def systemPrograms : List String := [
  "[", "basename", "cat", "cmp", "cp", "cut", "dirname", "echo", "env", "expr", "false", "grep", "head",
  "ls", "mv", "printf", "pwd", "rm", "sed", "seq", "sh", "sleep", "sort", "tac", "tail", "tee", "test",
  "touch", "tr", "true", "uniq", "wc"]

def programDirectories : List String := ["/usr/bin/", "/bin/"]

/-- Files of the system that hold something, which no program here reads. -/
def systemFiles : List String := ["/etc/group", "/etc/hosts", "/etc/passwd", "/etc/shadow"]

namespace Machine

variable (m : Machine)

/-! ## Files -/

def absolute (path : String) : String :=
  let whole := if path.startsWith "/" then path else m.directory ++ "/" ++ path
  let names := (pieces '/' whole.toList).foldl (fun names name =>
    if name = [] || name = ['.'] then names
    else if name = ['.', '.'] then names.drop 1
    else name :: names) []
  "/" ++ String.ofList (List.intercalate ['/'] names.reverse)

def contents? (path : String) : Option String :=
  let path := m.absolute path
  if path = "/dev/null" then some "" else m.files.get? path

def hasDirectory (path : String) : Bool :=
  path ≠ "" && systemDirectories.contains (m.absolute path)

def isProgram (path : String) : Bool :=
  let path := m.absolute path
  programDirectories.any fun place => systemPrograms.any fun name => path = place ++ name

def isRegular (path : String) : Bool :=
  path ≠ "" && (m.files.contains (m.absolute path) || m.isProgram path
    || systemFiles.contains (m.absolute path))

def exists? (path : String) : Bool :=
  path ≠ "" && (m.isRegular path || m.hasDirectory path || m.absolute path = "/dev/null")

def parent (path : String) : String :=
  let names := (pieces '/' (m.absolute path).toList).dropLast
  if names.length ≤ 1 then "/" else String.ofList (List.intercalate ['/'] names)

/-! ## Descriptors -/

def connection? (descriptor : Nat) : Option OpenFile := do
  m.opened[← m.descriptors.lookup descriptor]?

def connect (descriptor : Nat) (file : OpenFile) : Machine :=
  { m with
    opened := m.opened.push file
    descriptors := (descriptor, m.opened.size) :: m.descriptors.filter (·.1 ≠ descriptor) }

def unread (descriptor : Nat) : String :=
  match m.connection? descriptor with
  | none => ""
  | some file =>
    match file.target with
    | .file path => ((m.files.get? path).getD "").drop file.place |>.toString
    | .pipe number => (m.pipes.getD number "").drop file.place |>.toString
    | _ => ""

def advance (descriptor count : Nat) : Machine :=
  match m.descriptors.lookup descriptor with
  | none => m
  | some number =>
    { m with opened := m.opened.modify number fun file => { file with place := file.place + count } }

def consume (descriptor : Nat) : Machine := m.advance descriptor (m.unread descriptor).length

/-- The contents of a file after octets have been written at a place. -/
def overwritten (contents : String) (place : Nat) (octets : String) : String :=
  if place = contents.length then contents ++ octets
  else
    let cs := contents.toList
    String.ofList (cs.take place ++ List.replicate (place - cs.length) '\x00' ++ octets.toList
      ++ cs.drop (place + octets.length))

def write (descriptor : Nat) (octets : String) : Machine :=
  match m.connection? descriptor with
  | none => m
  | some file =>
    match file.target with
    | .nothing => m
    | .output => { m with output := m.output ++ octets }
    | .errors => { m with errors := m.errors ++ octets }
    | .pipe number => { m with pipes := m.pipes.modify number (· ++ octets) }
    | .file path =>
      let contents := (m.files.get? path).getD ""
      let place := if file.append then contents.length else file.place
      let m := { m with files := m.files.insert path (overwritten contents place octets) }
      m.advance descriptor (place + octets.length - file.place)

def say (octets : String) : Machine := m.write 1 octets

/-! ## Programs and what they read -/

/-- The name by which a program speaks of itself: a path if it has been called by one. -/
def titled (program : String) : String :=
  if m.invokedAs.endsWith ("/" ++ program) then m.invokedAs else program

def report (program complaint : String) : Machine :=
  m.write 2 (m.titled program ++ ": " ++ complaint ++ "\n")

/-- The contents of a file that a program is given; a hyphen stands for what is left of its input. -/
def load (path : String) : Except FileTrouble String × Machine :=
  if path = "-" then (.ok (m.unread 0), m.consume 0)
  else if m.hasDirectory path then (.error .directory, m)
  else
    match m.contents? path with
    | some contents => (.ok contents, m)
    | none => (.error .missing, m)

/-- Loads each of some files and goes on with what is in it; a file that cannot be read is reported. -/
def forFiles (program : String) (wording : String → FileTrouble → String)
    (step : Machine → String → String → Machine) (paths : List String) : Machine × Bool :=
  paths.foldl (fun (m, allRead) path =>
    match m.load path with
    | (.ok contents, m) => (step m path contents, allRead)
    | (.error trouble, m) => (m.report program (wording path trouble), false)) (m, true)

/-! ## Complaints and ends -/

def complain (complaint : String) : Machine :=
  m.write 2 (m.zero ++ ": " ++ m.line.repr ++ ": "
    ++ (m.within.map (· ++ ": ")).getD "" ++ complaint ++ "\n")

def complainOf (builtin complaint : String) : Machine :=
  m.write 2 (m.zero ++ ": " ++ m.line.repr ++ ": " ++ builtin ++ ": " ++ complaint ++ "\n")

def withStatus (status : Nat) : Machine := { m with status }

def isRunning : Bool := m.progress = .running

/-! ## Settings -/

def isStrict : Bool := m.settings.contains 'e'

def refusesUnset : Bool := m.settings.contains 'u'

def isTracing : Bool := m.settings.contains 'x'

def isDry : Bool := m.settings.contains 'n'

def withSetting (letter : Char) (on : Bool) : Machine :=
  let others := m.settings.filter (· ≠ letter)
  { m with settings := if on then letter :: others else others }

/-! ## Ends -/

def exit (status : Nat) : Machine := { m with status, progress := .exiting }

def abort (complaint : String) : Machine := (m.complain complaint).exit 2

/-! ## Variables -/

def valueOf? (name : String) : Option String := (m.bindings.get? name).bind (·.value)

def assign (name value : String) : Machine :=
  let known := (m.bindings.get? name).getD {}
  if known.isFixed then m.abort (name ++ ": is read only")
  else { m with bindings := m.bindings.insert name { known with value := some value } }

def assignExported (name value : String) : Machine :=
  let m := m.assign name value
  { m with bindings := m.bindings.modify name fun v => { v with exported := true } }

def restoreVariable (name : String) (before : Option Variable) : Machine :=
  { m with bindings :=
      match before with
      | some v => m.bindings.insert name v
      | none => m.bindings.erase name }

def separators : List Char := ((m.valueOf? "IFS").getD " \t\n").toList

def settingLetters : String :=
  String.ofList ((settingNames.map (·.2)).filter m.settings.contains)

def parameter? (name : String) : Option String :=
  if name = "#" then some m.arguments.length.repr
  else if name = "?" then some m.status.repr
  else if name = "$" then some processNumber
  else if name = "-" then some m.settingLetters
  else if name = "!" then m.jobs.head?.map fun job => job.1.repr
  else if name = "@" || name = "*" then
    if m.arguments.isEmpty then none else some (join " " m.arguments)
  else
    match natural? name.toList with
    | some 0 => some m.zero
    | some n => (m.arguments.drop (n - 1)).head?
    | none => m.valueOf? name

/-! ## Processes -/

/-- What has changed outside of the process after a part of it has run by itself. -/
def after (inner : Machine) : Machine :=
  { m with
    files := inner.files
    pipes := inner.pipes
    opened := inner.opened
    output := inner.output
    errors := inner.errors
    status := inner.status
    documents := inner.documents
    progress :=
      match inner.progress with
      | .killed signal => .killed signal
      | _ => m.progress }

end Machine
end IngressPlane.Shell
