import IngressPlane.Checking.Command
import IngressPlane.Shell.Builtins
import IngressPlane.Shell.Programs
import IngressPlane.Shell.Redirect

/-!
Running commands and scripts. Commands change the state of the shell one after another; those that
have a process of their own work on a copy, of which only what is outside of it stays.
-/
namespace IngressPlane.Shell

open Text

/-- How the parts of a command are run. A strict script goes on after a command that has failed where
it is `tested`, which means that something depends on whether it fails. -/
abbrev Runner := (tested : Bool) → Command → Machine → Machine

namespace Machine

variable (m : Machine)

def forked : Machine :=
  { m with traps := m.traps.filter (·.2 = ""), signals := [], leaving := none, jobs := [] }

def leaveIfStrict (tested : Bool) : Machine :=
  if m.isStrict && !tested && m.status ≠ 0 && m.isRunning then m.exit m.status else m

/-- Says which signal has killed a command, and goes on with its status. -/
def reaped : Machine :=
  match m.progress with
  | .killed signal =>
    let m := match deathNotice? signal with
      | some notice => m.write 2 (notice ++ "\n")
      | none => m
    { m with status := 128 + signal, progress := .running }
  | _ => m

/-- How a loop goes on after its body has been run: whether there is another round. -/
def afterRound : Machine × Bool :=
  match m.progress with
  | .running => (m, true)
  | .leavingLoops 1 again => ({ m with progress := .running }, again)
  | .leavingLoops (n + 1) again => ({ m with progress := .leavingLoops n again }, false)
  | _ => (m, false)

def trace (descriptors : List (Nat × Nat)) (words : List String) : Machine :=
  if !m.isTracing || words.isEmpty then m
  else
    let shown := { m with descriptors }.write 2 ((m.valueOf? "PS4").getD "+ " ++ join " " words ++ "\n")
    { shown with descriptors := m.descriptors }

end Machine

/-! ## Calls of the shell -/

def firstPath : String := "/usr/local/sbin:/usr/local/bin:/usr/sbin:/usr/bin:/sbin:/bin"

def firstEnvironment : Table Variable := .ofList [
  ("PATH", { value := some firstPath, exported := true }),
  ("HOME", { value := some "/root", exported := true })]

def shellVariables : Table Variable := .ofList [
  ("PATH", { value := some firstPath }), ("IFS", { value := some " \t\n" }),
  ("OPTIND", { value := some "1" }), ("PS1", { value := some "# " }), ("PS2", { value := some "> " }),
  ("PS4", { value := some "+ " })]

/-- The state of a shell that a process calls. Of the variables it has those that are exported. -/
def Machine.called (m : Machine) : Machine :=
  { m with
    zero := m.titled "sh"
    arguments := []
    bindings := (((m.bindings.entries.filter (·.2.exported)).foldl (fun table (name, v) =>
      table.insert name { v with isFixed := false }) shellVariables).insert "PWD"
        { value := some m.directory, exported := true })
    functions := .empty
    traps := m.traps.filter (·.2 = "")
    signals := []
    settings := []
    status := 0
    outputStatus := 0
    progress := .running
    line := 0
    within := none
    loops := 0
    calls := 0
    locals := []
    leaving := none
    jobs := [] }

structure Script where
  text : String
  /-- Set for a file, whose lines can be shown while they are read. -/
  isFile : Bool
  machine : Machine

/-- The script that a shell is called with: the text after `-c`, a file, or the input. -/
def scriptOf (m : Machine) (words : List String) : Except Machine Script :=
  match readSettings (words.length + 1) m [] words with
  | .error (sign, mistake) => .error (m.abort (mistake.message sign))
  | .ok (m, extra, _, rest) =>
    if extra.contains 'c' then
      match rest with
      | [] => .error (m.abort "-c requires an argument")
      | [text] => .ok ⟨text, false, m⟩
      | text :: zero :: arguments => .ok ⟨text, false, { m with zero, arguments }⟩
    else
      match m.settings.contains 's', rest with
      | false, path :: arguments =>
        match m.contents? path with
        | some text => .ok ⟨text, true, { m with zero := path, arguments }⟩
        | none => .error (m.abort ("cannot open " ++ path ++ ": No such file"))
      | _, arguments => .ok ⟨m.unread 0, true, { m.consume 0 with arguments }⟩

/-! ## Environments -/

def environmentSwitches : List Switch := informing ++ [
  { letter := some 'i', long := ["ignore-environment"] },
  { letter := some 'u', long := ["unset"], value := .always }]

def leadingOptions (switches : List Switch) : List String → List String × List String
  | [] => ([], [])
  | "--" :: rest => ([], rest)
  | word :: rest =>
    match readWord? switches rest.head? word with
    | none => ([], word :: rest)
    | some read =>
      let valueTaken := match read with
        | .ok (_, taken) => taken
        | .error _ => false
      match valueTaken, rest with
      | true, value :: rest =>
        let (options, operands) := leadingOptions switches rest
        (word :: value :: options, operands)
      | _, rest =>
        let (options, operands) := leadingOptions switches rest
        (word :: options, operands)

def withAssignments : List String → Machine → List String × Machine
  | [], m => ([], m)
  | word :: rest, m =>
    match splitOnce? '=' word with
    | some (name, value) =>
      withAssignments rest { m with
        bindings := m.bindings.insert name { value := some value, exported := true } }
    | none => (word :: rest, m)

/-- What `env` is to call, and the state with the variables for that. -/
def environmentOf (g : Given) (operands : List String) (m : Machine) :
    Except Machine (List String × Machine) :=
  let (isEmptied, operands) := match operands with
    | "-" :: rest => (true, rest)
    | operands => (g.has "i", operands)
  let erased := g.values "u"
  let kept := m.bindings.filter fun name v => v.exported && !isEmptied && !erased.contains name
  if g.onlyAsks then .error (m.withStatus 0)
  else
    match erased.find? fun name => name = "" || name.contains '=' with
    | some name =>
      .error ((m.report "env" ("cannot unset " ++ inQuotes name ++ ": Invalid argument")).withStatus 125)
    | none => .ok (withAssignments operands { m with bindings := kept })

/-- The same for the words of a call, or the state after a call that only says something. -/
def environment (words : List String) (m : Machine) : Except Machine (List String × Machine) :=
  let (options, operands) := leadingOptions environmentSwitches words
  match readOptions environmentSwitches options with
  | .error mistake => .error ((misuse "env" m mistake.message).withStatus 125)
  | .ok g => environmentOf g operands m

def canCall (m : Machine) (name : String) : Bool :=
  let m := if (m.valueOf? "PATH").isSome then m else m.assign "PATH" "/bin:/usr/bin"
  (programPath? m name).isSome

def environmentLines (m : Machine) : String :=
  unlines ((m.bindings.entries.filter (·.2.exported)).map fun (name, v) => name ++ "=" ++ v.value.getD "")

namespace Runner

variable (run : Runner)

/-! ## Scripts -/

/-- Runs the commands of a text line by line. A text without commands has the status 0. -/
def lines (tested shown : Bool) : Nat → (ran : Bool) → Source → Machine → Machine
  | 0, _, _, m => m
  | fuel + 1, ran, source, m =>
    match nextCommand.run { source with documents := m.documents } with
    | .error e => { m with line := e.line }.abort ("Syntax error: " ++ e.reason)
    | .ok (none, _) => if ran then m else m.withStatus 0
    | .ok (some command, after) =>
      let read := String.ofList (source.rest.take (source.rest.length - after.rest.length))
      let m := { m with documents := after.documents, reached := after.line }
      let m := if shown && m.settings.contains 'v' then m.write 2 read else m
      let isEmpty := match command with
        | .sequence [] => true
        | _ => false
      let m := if m.isDry || isEmpty then m
        else run tested command m
      if m.isRunning then lines tested shown fuel (ran || !isEmpty) after m else m

def text (tested shown : Bool) (script : String) (m : Machine) : Machine :=
  run.lines tested shown (script.length + 2) false { rest := script.toList } m

/-- Ends a process: what is to be done at its end is done, and its status stays as it was unless
that leaves with another one. -/
def finish (m : Machine) : Machine :=
  match m.progress, m.traps.lookup 0 with
  | .killed _, _ => m
  | _, none => m
  | _, some action =>
    let ended := run.text false false action
      { m.withTrap 0 none with progress := .running, leaving := some m.status }
    match ended.progress with
    | .killed _ => ended
    | .exiting => ended
    | _ => ended.withStatus m.status

def answerSignals (m : Machine) : Machine :=
  if m.signals.isEmpty || !m.isRunning then m
  else
    m.signals.foldl (fun m signal =>
      match m.traps.lookup signal with
      | some action =>
        let after := run.text false false action m
        if after.isRunning then after.withStatus m.status else after
      | none => m) { m with signals := [] }

def apart (tested : Bool) (command : Command) (m : Machine) : Machine :=
  m.after (run.finish (run tested command m.forked))

def shell (words : List String) (m : Machine) : Machine :=
  let ended := match scriptOf m.called words with
    | .error m => m
    | .ok script => run.finish (run.text false script.isFile script.text script.machine)
  m.after ended

/-! ## Expansion -/

def substitution : Substitution := fun command m =>
  let number := m.pipes.size
  let piped := { m with pipes := m.pipes.push "" }.connect 1 { target := .pipe number }
  let after := { run.apart false command piped with descriptors := m.descriptors }
  (after.pipes.getD number "", { after with status := m.status, outputStatus := after.status })

def assignAll (exported : Bool) (m : Machine) (assignments : List (String × Word)) :
    List String × Machine :=
  assignments.foldl (fun (shown, m) (name, w) =>
    if !m.isRunning then (shown, m)
    else
      let (value, m) := expandValue run.substitution m w
      if !m.isRunning then (shown, m)
      else
        let m := m.assign name value
        let known := (m.bindings.get? name).getD {}
        (shown ++ [name ++ "=" ++ value],
          if exported then { m with bindings := m.bindings.insert name { known with exported } }
          else m)) ([], m)

/-! ## Calls -/

def program (name : String) (words : List String) (m : Machine) : Machine :=
  let called := { m with invokedAs := name }
  let after :=
    match lastName name with
    | "sh" => run.shell words called
    | "env" =>
      match environment words called with
      | .error ended => ended
      | .ok ([], changed) => changed.say (environmentLines changed)
      | .ok (command :: rest, changed) =>
        if canCall changed command then
          if rest.length < words.length then program command rest changed else changed
        else if command.contains '/' && changed.exists? command then
          (changed.report "env" (inQuotes command ++ ": Permission denied")).withStatus 126
        else (changed.report "env" (inQuotes command ++ ": No such file or directory")).withStatus 127
    | found =>
      match programs.lookup found with
      | some program => program words called
      | none => called.withStatus 127
  { after with invokedAs := m.invokedAs, bindings := m.bindings }
termination_by words.length

def external (complain : Machine → String → Machine) (name : String)
    (words : List String) (m : Machine) : Machine :=
  if (programPath? m name).isSome then run.program name words m
  else if name = "" then (complain m ": Permission denied").withStatus 127
  else if name.contains '/' && m.exists? name then
    (complain m (name ++ ": Permission denied")).withStatus 126
  else (complain m (name ++ ": not found")).withStatus 127

def eval (tested : Bool) (words : List String) (m : Machine) : Machine :=
  let after := run.text tested false (join " " words) { m with within := some "eval" }
  { after with within := m.within }

def dot (special : Bool) (words : List String) (m : Machine) : Machine :=
  let fail (complaint : String) : Machine :=
    let m := m.complainOf "." complaint
    if special then m.exit 2 else m.withStatus 2
  match if words.head? = some "--" then words.drop 1 else words with
  | [] => m.withStatus 0
  | path :: _ =>
    if path.startsWith "-" && path ≠ "-" then
      fail ("Illegal option " ++ String.ofList (path.toList.take 2))
    else if !path.contains '/' then fail (path ++ ": not found")
    else
      match m.contents? path with
      | none => fail ("cannot open " ++ path ++ ": No such file")
      | some script =>
        let after := run.text false true script { m with within := some path }
        { after with
          within := m.within
          progress := if after.progress = .returning then .running else after.progress }

def exec (words : List String) (m : Machine) : Machine :=
  match words with
  | [] => m.withStatus 0
  | name :: rest =>
    let ended := run.external (fun m complaint => m.complainOf "exec" complaint) name rest m
    if !ended.isRunning then ended
    else if (programPath? m name).isSome then { ended.exit ended.status with traps := [] }
    else ended.exit ended.status

def builtin? (tested special : Bool) (name : String) (words : List String) (m : Machine) :
    Option Machine :=
  if name = "eval" then some (run.eval tested words m)
  else if name = "." then some (run.dot special words m)
  else if name = "exec" then some (run.exec words m)
  else (plainBuiltins.lookup name).map fun b => runBuiltin name special b m words

def function (tested : Bool) (body : Command) (words : List String) (m : Machine) : Machine :=
  let after := run tested body
    { m with arguments := words, loops := 0, calls := m.calls + 1, locals := [] }
  let restored := after.locals.foldl (fun m (name, before) => m.restoreVariable name before) after
  { restored with
    arguments := m.arguments
    loops := m.loops
    calls := m.calls
    locals := m.locals
    progress := if after.progress = .returning then .running else after.progress }

/-- Calls a builtin or a program, and no function. Complaints of a builtin do not leave the script. -/
def plainCall (tested : Bool) (words : List String) (m : Machine) : Machine :=
  match words with
  | [] => m.withStatus 0
  | name :: rest =>
    (run.builtin? tested false name rest m).getD (run.external Machine.complain name rest m).reaped

def command (tested : Bool) (words : List String) (m : Machine) : Machine :=
  match words with
  | "-v" :: name :: _ => locate m name
  | "-V" :: name :: _ => describe (m.withStatus 0) name
  | "-p" :: rest => run.plainCall tested rest m
  | "--" :: rest => run.plainCall tested rest m
  | word :: rest =>
    if word.startsWith "-" && word ≠ "-" then
      (m.complainOf "command" ("Illegal option " ++ String.ofList (word.toList.take 2))).withStatus 2
    else run.plainCall tested (word :: rest) m
  | [] => m.withStatus 0

def call (tested : Bool) (name : String) (words : List String) (m : Machine) : Machine :=
  match m.functions.get? name with
  | some body => run.function tested body words m
  | none =>
    if name = "command" then run.command tested words m
    else
      (run.builtin? tested (specialBuiltins.contains name) name words m).getD
        (run.external Machine.complain name words m).reaped

/-- Runs a simple command: its words are expanded, then its redirections and assignments. These hold
for the command alone, unless there is none or it is a special builtin. -/
def simple (tested : Bool) (line : Nat) (assignments : List (String × Word)) (words : List Word)
    (redirections : List Redirection) (m : Machine) : Machine :=
  let (fields, m) := expandWords run.substitution { m with line, outputStatus := 0 } words
  if !m.isRunning then m
  else
    let special := fields.head?.any specialBuiltins.contains
    let stays := fields.isEmpty || special
    match redirect run.substitution m redirections with
    | (failed, some e) =>
      let failed := { failed.complain e.message with descriptors := m.descriptors }
      if special then failed.exit 2 else failed.withStatus 2
    | (redirected, none) =>
      let before := assignments.map fun (name, _) => (name, m.bindings.get? name)
      let (shown, assigned) := run.assignAll (!stays) redirected assignments
      let after :=
        if !assigned.isRunning then assigned
        else
          let traced := assigned.trace m.descriptors (shown ++ fields)
          match fields with
          | [] => traced.withStatus traced.outputStatus
          | name :: rest => run.call tested name rest traced
      let after := if fields = ["exec"] then after else { after with descriptors := m.descriptors }
      if stays then after
      else before.foldl (fun m (name, value) => m.restoreVariable name value) after

/-! ## Compound commands -/

def redirected (tested : Bool) (line : Nat) (body : Command) (redirections : List Redirection)
    (m : Machine) : Machine :=
  match redirect run.substitution { m with line } redirections with
  | (failed, some e) =>
    ({ failed.complain e.message with descriptors := m.descriptors }.withStatus 2).leaveIfStrict tested
  | (opened, none) =>
    if !opened.isRunning then opened
    else { run tested body opened with descriptors := m.descriptors }

def pipeline (m : Machine) : List Command → Machine
  | [] => m
  | [final] => { run.apart false final m with descriptors := m.descriptors }
  | stage :: rest =>
    let number := m.pipes.size
    let piped := { m with pipes := m.pipes.push "" }.connect 1 { target := .pipe number }
    let after := { run.apart false stage piped with descriptors := m.descriptors }
    if !after.isRunning then after
    else
      let fed := { after with status := m.status }.connect 0 { target := .pipe number }
      { pipeline fed rest with descriptors := m.descriptors }

/-- Rounds of a loop. The status is the one of the body, or 0 where it has not been run. -/
def rounds (tested goesOnWhile : Bool) (condition body : Command) : Nat → Nat → Machine → Machine
  | 0, _, m => m
  | fuel + 1, status, m =>
    match (run true condition m).afterRound with
    | (checked, false) => checked
    | (checked, true) =>
      if !checked.isRunning then checked
      else if (checked.status = 0) != goesOnWhile then checked.withStatus status
      else
        match (run tested body checked).afterRound with
        | (after, true) => rounds tested goesOnWhile condition body fuel after.status after
        | (after, false) => after

def roundLimit : Nat := 1000000

def loop (tested goesOnWhile : Bool) (condition body : Command) (m : Machine) : Machine :=
  let after := run.rounds tested goesOnWhile condition body roundLimit 0 { m with loops := m.loops + 1 }
  { after with loops := m.loops }

def forValues (tested : Bool) (name : String) (body : Command) : List String → Machine → Machine
  | [], m => m
  | value :: rest, m =>
    let assigned := m.assign name value
    if !assigned.isRunning then assigned
    else
      match (run tested body assigned).afterRound with
      | (after, true) => forValues tested name body rest after
      | (after, false) => after

def forEach (tested : Bool) (line : Nat) (name : String) (words : List Word) (body : Command)
    (m : Machine) : Machine :=
  let (values, m) := expandWords run.substitution { m with line } words
  if !m.isRunning then m
  else
    let after := run.forValues tested name body values { m.withStatus 0 with loops := m.loops + 1 }
    { after with loops := m.loops }

def chosenArm (m : Machine) (subject : Array Char) : List (List Word × Command) →
    Option Command × Machine
  | [] => (none, m)
  | (patterns, body) :: rest =>
    let step (state : Bool × Machine) (pattern : Word) : Bool × Machine :=
      if state.1 || !state.2.isRunning then state
      else
        let (r, m) := expandPattern run.substitution state.2 pattern
        (r.matchesWhole subject, m)
    match patterns.foldl step (false, m) with
    | (true, m) => (some body, m)
    | (false, m) => chosenArm m subject rest

def choice (tested : Bool) (line : Nat) (subject : Word) (arms : List (List Word × Command))
    (m : Machine) : Machine :=
  let (text, m) := expandWord run.substitution { m with line } subject
  if !m.isRunning then m
  else
    match run.chosenArm m text.toList.toArray arms with
    | (none, m) => if m.isRunning then m.withStatus 0 else m
    | (some (.sequence []), m) => m.withStatus 0
    | (some body, m) => if m.isRunning then run tested body m else m

def sequence (tested : Bool) : List Command → Machine → Machine
  | [], m => m
  | [final], m => run tested final m
  | first :: rest, m =>
    let after := run tested first m
    if after.isRunning then sequence tested rest after else after

/-- Runs a command in the background: at once, as nothing can tell when. -/
def background (body : Command) (m : Machine) : Machine :=
  let number := 4243 + m.jobs.length
  let after := run.apart false body (m.connect 0 { target := .nothing })
  let after := { after with descriptors := m.descriptors, jobs := (number, after.status) :: m.jobs }
  if after.isRunning then after.withStatus 0 else after

def compound (tested : Bool) (m : Machine) : Command → Machine
  | .simple line assignments words redirections =>
    (run.simple tested line assignments words redirections m).leaveIfStrict tested
  | .redirected line body redirections => run.redirected tested line body redirections m
  | .pipeline stages => (run.pipeline m stages).leaveIfStrict tested
  | .subshell line body => (run.apart tested body { m with line }).leaveIfStrict tested
  | .background body => run.background body m
  | .negation body =>
    let checked := run true body m
    if checked.isRunning then checked.withStatus (if checked.status = 0 then 1 else 0) else checked
  | .both first second =>
    let checked := run true first m
    if checked.isRunning && checked.status = 0 then run tested second checked else checked
  | .either first second =>
    let checked := run true first m
    if checked.isRunning && checked.status ≠ 0 then run tested second checked else checked
  | .sequence commands => run.sequence tested commands m
  | .branch condition consequence alternative =>
    let checked := run true condition m
    if !checked.isRunning then checked
    else if checked.status = 0 then run tested consequence checked
    else
      match alternative with
      | some alternative => run tested alternative checked
      | none => checked.withStatus 0
  | .loop goesOnWhile condition body => run.loop tested goesOnWhile condition body m
  | .forEach line name words body => run.forEach tested line name words body m
  | .choice line subject arms => run.choice tested line subject arms m
  | .define name body => { m with functions := m.functions.insert name body }.withStatus 0

end Runner

/-- Runs a command, unless commands are only to be read. `depth` bounds how deep commands and calls are
nested. -/
def run : (depth : Nat) → Runner
  | 0 => fun _ _ m => m.exit 2
  | depth + 1 => fun tested command m =>
    if m.settings.contains 'n' then m
    else Runner.answerSignals (run depth) (Runner.compound (run depth) tested m command)

def depthLimit : Nat := 20000

/-! ## Commands of a name -/

def Machine.exitStatus (m : Machine) : ExitStatus :=
  match m.progress with
  | .killed signal => .signal signal
  | _ => .code (UInt8.ofNat m.status)

def firstMachine (files : Table (List UInt8)) : Machine :=
  { zero := "sh"
    bindings := firstEnvironment
    files := .ofList (files.entries.map fun (path, contents) => (ofText path, ofBytes contents))
    opened := #[{ target := .nothing }, { target := .output }, { target := .errors }]
    descriptors := [(0, 0), (1, 1), (2, 2)] }

def execute? (command : String) (arguments : List String) (files : Table (List UInt8)) :
    Option (ExitStatus × List UInt8) :=
  let m := firstMachine files
  let name := ofText command
  if (programPath? m name).isNone || arguments.any fun a => a.toList.contains '\x00' then none
  else
    let ended := (run depthLimit).program name (arguments.map ofText) m
    some (ended.exitStatus, toBytes ended.errors)

/-- The commands of the shell, for the checks that are done by one. -/
def commandRunner : CommandRunner := { file := "/tmp/mci-ingress-Q7xKd2.conf", run? := execute? }

end IngressPlane.Shell
