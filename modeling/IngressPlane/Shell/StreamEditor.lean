import IngressPlane.Shell.FilePrograms
import IngressPlane.Shell.StreamScript

/-!
The program `sed`, which runs a script over each line of its input.
-/
namespace IngressPlane.Shell.StreamEditor

open Text

structure Line where
  text : String
  /-- Unset for a last line without an end. -/
  complete : Bool := true

structure State where
  current : Line := ⟨"", true⟩
  held : Line := ⟨"", true⟩
  number : Nat := 0
  rest : List Line
  /-- The places of the commands whose range of lines has begun, with its last line if it is known. -/
  ranges : List (Nat × Option Nat) := []
  replaced : Bool := false
  /-- The expression that was used last. -/
  used : Option Regex := none
  output : String := ""
  /-- Set when the last line that was written has no end yet. -/
  owesEnd : Bool := false
  /-- What is to be written after the current line. -/
  waiting : String := ""
  status : Nat := 0
  ended : Bool := false
  failure : Option String := none

namespace State

variable (s : State)

def isLast : Bool := s.rest.isEmpty

def fail (reason : String) : State := { s with failure := some reason, ended := true }

/-! ## Output -/

def write (text : String) : State :=
  if text = "" then s
  else { s with output := (if s.owesEnd then s.output ++ "\n" else s.output) ++ text, owesEnd := false }

def writeLine (line : Line) : State :=
  let s := { s with output := (if s.owesEnd then s.output ++ "\n" else s.output) ++ line.text }
  if line.complete then { s with output := s.output ++ "\n", owesEnd := false }
  else { s with owesEnd := true }

def settle : State := { s.write s.waiting with waiting := "" }

/-! ## Choosing lines -/

def isAt (a : Address) : Bool × State :=
  match a with
  | .line n => (s.number = n, s)
  | .last => (s.isLast, s)
  | .pattern r =>
    match r.or s.used with
    | none => (false, s.fail "no previous regular expression")
    | some r => (r.occursIn s.current.text.toList.toArray, { s with used := some r })
  | .every first step =>
    (if step = 0 then s.number = first else first ≤ s.number && (s.number - first) % step = 0, s)
  | .after _ | .multiple _ => (false, s)

/-- Whether a range that begins with this line goes on, and to which line if that is known. -/
def begin? (second : Address) : Option (Option Nat) :=
  let upTo (n : Nat) : Option (Option Nat) := if n ≤ s.number then none else some (some n)
  match second with
  | .line n => upTo n
  | .after n => upTo (s.number + n)
  | .multiple n => upTo ((s.number + n - 1) / n * n)
  | _ => if s.isLast then none else some none

/-- Whether a command is for the current line, and the ranges that have begun after that. -/
def chooses (place : Nat) (edit : Edit) : Bool × State :=
  let closed (s : State) : State := { s with ranges := s.ranges.filter (·.1 ≠ place) }
  match edit.first, edit.second with
  | none, _ => (true, s)
  | some a, none => s.isAt a
  | some a, some b =>
    match s.ranges.lookup place with
    | some (some final) =>
      if s.number < final then (true, s) else (s.number = final, closed s)
    | some none =>
      let (isEnd, s) := s.isAt b
      (true, if isEnd then closed s else s)
    | none =>
      let (isStart, s) := s.isAt a
      if !isStart then (false, s)
      else
        match s.begin? b with
        | some final => (true, { s with ranges := (place, final) :: s.ranges })
        | none => (true, s)

/-! ## Reading -/

/-- Takes the next line; what is left of the current one is written first. -/
def advance? (prints : Bool) : Option State :=
  match s.rest with
  | [] => none
  | line :: rest =>
    let s := (if prints then s.writeLine s.current else s).settle
    some { s with current := line, rest, number := s.number + 1, replaced := false }

def appendNext? : Option State :=
  match s.rest with
  | [] => none
  | line :: rest =>
    let text := s.current.text ++ "\n" ++ line.text
    some { s.settle with
      current := ⟨text, line.complete⟩, rest, number := s.number + 1, replaced := false }

end State

/-! ## Replacing -/

structure Cased where
  chars : List Char := []
  lasting : Casing := .plain
  once : Casing := .plain

def Cased.add (k : Cased) (c : Char) : Cased :=
  let inCase (casing : Casing) (c : Char) : Char :=
    if casing = .upper || casing = .upperOne then c.toUpper
    else if casing = .lower || casing = .lowerOne then c.toLower
    else c
  { k with chars := inCase (if k.once = .plain then k.lasting else k.once) c :: k.chars, once := .plain }

def Cased.switch (k : Cased) (casing : Casing) : Cased :=
  if casing = .upperOne || casing = .lowerOne then { k with once := casing }
  else { k with lasting := casing, once := if casing = .plain then .plain else k.once }

def partsText (text : Array Char) (start : Nat) (c : Cursor) (parts : List Part) : List Char :=
  let add (k : Cased) (part : Part) : Cased :=
    match part with
    | .text c => k.add c
    | .casing casing => k.switch casing
    | .group n =>
      let (first, last) := if n = 0 then (start, c.place) else (c.groups.lookup n).getD (0, 0)
      (text.extract first last).foldl Cased.add k
  (parts.foldl add {}).chars.reverse

/-- The text from a place on with matches replaced, and whether there was one. Of the matches those
count whose number is reached. -/
def replaceFrom (r : Regex) (parts : List Part) (number : Nat) (all : Bool) (text : Array Char) :
    Nat → (place count : Nat) → (afterMatch : Bool) → List Char × Bool
  | 0, _, _, _ => ([], false)
  | fuel + 1, place, count, afterMatch =>
    let others (place : Nat) : List Char := (text.extract place text.size).toList
    match r.find? text place with
    | none => (others place, false)
    | some (start, c) =>
      let before := (text.extract place start).toList
      let isEmpty := start = c.place
      let stepped := (text.extract start (start + 1)).toList
      if isEmpty && afterMatch && start = place then
        if start = text.size then ([], false)
        else
          let (after, found) := replaceFrom r parts number all text fuel (start + 1) count false
          (stepped ++ after, found)
      else
        let counts := number ≤ count + 1
        let shown := if counts then partsText text start c parts
          else (text.extract start c.place).toList
        if counts && !all then (before ++ shown ++ others c.place, true)
        else if isEmpty then
          if start = text.size then (before ++ shown, counts)
          else
            let (after, found) := replaceFrom r parts number all text fuel (start + 1) (count + 1) false
            (before ++ shown ++ stepped ++ after, counts || found)
        else
          let (after, found) := replaceFrom r parts number all text fuel c.place (count + 1) true
          (before ++ shown ++ after, counts || found)

def State.replace (s : State) (r : Regex) (parts : List Part) (number : Nat) (all prints : Bool) : State :=
  let text := s.current.text.toList.toArray
  let (after, found) := replaceFrom r parts (max number 1) all text (text.size + 2) 0 0 false
  let s := { s with used := some r }
  if !found then s
  else
    let s := { s with current := { s.current with text := String.ofList after }, replaced := true }
    if prints then s.writeLine s.current else s

/-! ## Commands -/

inductive Step
  | goOn
  | goTo (place : Nat)
  /-- The cycle ends, and the line is written or not. -/
  | done (prints : Bool)
  /-- The cycle begins again with what is left of the line. -/
  | again

def firstLine (text : String) : String := (linesOf text).headD ""

/-- A line with its octets shown, in rows that a backslash ends and with a mark at the end. -/
def shownLine (length : Nat) (text : String) : String :=
  let step (state : List Char × Nat) (c : Char) : List Char × Nat :=
    let shown := if c = '\\' then ['\\', '\\'] else if isShown c then [c] else escapedOctet c
    if length ≠ 0 && length - 1 < state.2 + shown.length then
      (state.1 ++ '\\' :: '\n' :: shown, shown.length)
    else (state.1 ++ shown, state.2 + shown.length)
  String.ofList (text.toList.foldl step ([], 0)).1 ++ "$\n"

def perform (script : Array Edit) (quiet : Bool) (place : Nat) (s : State) : Action → State × Step
  | .openBlock | .closeBlock | .label _ => (s, .goOn)
  | .branch name => (s, .goTo ((labelPlace? script name).getD script.size))
  | .branchIfReplaced name =>
    if s.replaced then
      ({ s with replaced := false }, .goTo ((labelPlace? script name).getD script.size))
    else (s, .goOn)
  | .delete => (s, .done false)
  | .deleteFirst =>
    let text := s.current.text
    if text.contains '\n' then
      let left := (text.drop ((firstLine text).length + 1)).toString
      ({ s with current := { s.current with text := left } }, .again)
    else (s, .done false)
  | .print => (s.writeLine s.current, .goOn)
  | .printFirst =>
    let text := s.current.text
    (s.writeLine ⟨firstLine text, s.current.complete || text.contains '\n'⟩, .goOn)
  | .next =>
    match s.advance? !quiet with
    | some s => (s, .goOn)
    | none => ({ s with ended := true }, .done true)
  | .appendNext =>
    match s.appendNext? with
    | some s => (s, .goOn)
    | none => ({ s with ended := true }, .done true)
  | .hold => ({ s with held := s.current }, .goOn)
  | .holdMore =>
    ({ s with held := ⟨s.held.text ++ "\n" ++ s.current.text, s.current.complete⟩ }, .goOn)
  | .fetch => ({ s with current := s.held }, .goOn)
  | .fetchMore =>
    ({ s with current := ⟨s.current.text ++ "\n" ++ s.held.text, s.held.complete⟩ }, .goOn)
  | .exchange => ({ s with current := s.held, held := s.current }, .goOn)
  | .clear => ({ s with current := { s.current with text := "" } }, .goOn)
  | .lineNumber => (s.write (s.number.repr ++ "\n"), .goOn)
  | .list length => (s.write (shownLine length s.current.text), .goOn)
  | .quit status prints =>
    ({ s with status, ended := true, waiting := if prints then s.waiting else "" }, .done prints)
  | .insertBefore text => (s.write text, .goOn)
  | .appendAfter text => ({ s with waiting := s.waiting ++ text }, .goOn)
  | .change text => (if (s.ranges.lookup place).isSome then s else s.write text, .done false)
  | .replace r parts number all prints =>
    match r.or s.used with
    | none => (s.fail "no previous regular expression", .done false)
    | some r => (s.replace r parts number all prints, .goOn)
  | .translate pairs =>
    let text := String.ofList (s.current.text.toList.map fun c => (pairs.lookup c).getD c)
    ({ s with current := { s.current with text } }, .goOn)

def cycle (script : Array Edit) (quiet : Bool) : Nat → Nat → State → State × Step
  | 0, _, s => ({ s with ended := true }, .done true)
  | fuel + 1, place, s =>
    match script[place]? with
    | none => (s, .done true)
    | some edit =>
      let (chosen, s) := s.chooses place edit
      if s.failure.isSome then (s, .done false)
      else if chosen = edit.negated then
        match edit.action with
        | .openBlock => cycle script quiet fuel (blockEnd script place) s
        | _ => cycle script quiet fuel (place + 1) s
      else
        match perform script quiet place s edit.action with
        | (s, .goOn) => cycle script quiet fuel (place + 1) s
        | (s, .goTo place) => cycle script quiet fuel place s
        | ended => ended

def stepLimit : Nat := 1000000

/-- Goes through the lines. A line that is begun again is not a new one. -/
def cycles (script : Array Edit) (quiet : Bool) : Nat → (isNew : Bool) → State → State
  | 0, _, s => s
  | fuel + 1, isNew, s =>
    match if isNew then s.advance? false else some s with
    | none => s
    | some s =>
      let (s, step) := cycle script quiet stepLimit 0 s
      let prints := match step with
        | .done prints => prints && !quiet
        | _ => false
      let s := (if prints then s.writeLine s.current else s).settle
      let isNew := match step with
        | .again => false
        | _ => true
      if s.ended then s else cycles script quiet fuel isNew s

def inputLines (text : String) : List Line :=
  let lines := (linesOf text).map fun text => (⟨text, true⟩ : Line)
  if text = "" || text.endsWith "\n" then lines
  else lines.dropLast ++ (lines.getLast?.map fun line => { line with complete := false }).toList

def initialRanges (script : Array Edit) : List (Nat × Option Nat) :=
  script.toList.zipIdx.filterMap fun (edit, place) =>
    match edit.first with
    | some (.line 0) => some (place, none)
    | _ => none

def apply (script : Array Edit) (quiet : Bool) (text : String) : State :=
  cycles script quiet (2 * text.length + 2) true
    { rest := inputLines text, ranges := initialRanges script }

/-! ## The program -/

def switches : List Switch := informing ++ [
  { letter := some 'n', long := ["quiet", "silent"] },
  { letter := some 'E', long := ["regexp-extended"] }, { letter := some 'r' },
  { letter := some 'e', long := ["expression"], value := .always },
  { letter := some 'i', long := ["in-place"], value := .sometimes },
  { letter := some 's', long := ["separate"] }, { letter := some 'u', long := ["unbuffered"] },
  { long := ["posix"] }]

def Mistake.message (expressions : List String) : Mistake → String
  | .noLabel name => "can't find label for jump to `" ++ name ++ "'"
  | .found place reason => within 1 place expressions ++ ": " ++ reason
where
  within (n place : Nat) : List String → String
    | expression :: next :: rest =>
      if place ≤ expression.length then spot n place
      else within (n + 1) (place - (expression.length + 1)) (next :: rest)
    | _ => spot n place
  spot (n place : Nat) : String := "-e expression #" ++ n.repr ++ ", char " ++ place.repr

def Mistake.status : Mistake → Nat
  | .noLabel _ => 4
  | .found _ _ => 1

def loadWith (inPlace : Bool) (m : Machine) (path : String) : Except Nat String × Machine :=
  match m.load path with
  | (.ok contents, m) => (.ok contents, m)
  | (.error .missing, m) =>
    (.error 2, m.report "sed" ("can't read " ++ path ++ ": No such file or directory"))
  | (.error .directory, m) =>
    (.error 4, m.report "sed"
      (if inPlace then "couldn't edit " ++ path ++ ": not a regular file"
      else "read error on " ++ path ++ ": Is a directory"))

def finish (s : State) (failed : Nat) (pass : Machine → String → Machine) (m : Machine) : Machine :=
  let m := pass m s.output
  match s.failure with
  | some reason => (m.report "sed" ("-e expression #1, char 0: " ++ reason)).withStatus 1
  | none => m.withStatus (if s.status = 0 then failed else s.status)

def editFiles (g : Given) (edits : Array Edit) (silenced : Bool) (paths : List String) (m : Machine) :
    Machine :=
  let apply := apply edits (g.has "n" || silenced)
  if g.has "i" then
    paths.foldl (fun m path =>
      match loadWith true m path with
      | (.ok contents, m) =>
        finish (apply contents) m.status (fun m text => (m.store? path text).getD m) m
      | (.error status, m) => m.withStatus status) (m.withStatus 0)
  else
    let step (state : String × Machine × Nat) (path : String) : String × Machine × Nat :=
      let (text, m, failed) := state
      match loadWith false m path with
      | (.ok contents, m) =>
        ((if text = "" || text.endsWith "\n" then text else text ++ "\n") ++ contents, m, failed)
      | (.error status, m) => (text, m, status)
    let (text, m, failed) := (orInput paths).foldl step ("", m, 0)
    finish (apply text) failed Machine.say m

def run : Program := fun words m =>
  match readOptions switches words with
  | .error mistake => (m.report "sed" mistake.message).withStatus 1
  | .ok g =>
    let (expressions, paths) := if g.has "e" then (g.values "e", g.operands)
      else (g.operands.take 1, g.operands.drop 1)
    let script := join "\n" expressions
    if g.onlyAsks then m.withStatus 0
    else
      match read (g.has "E" || g.has "r") script with
      | .error mistake => (m.report "sed" (mistake.message expressions)).withStatus mistake.status
      | .ok edits => editFiles g edits (script.startsWith "#n" && expressions.length = 1) paths m

end IngressPlane.Shell.StreamEditor
