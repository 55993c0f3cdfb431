import IngressPlane.Shell.Machine
import IngressPlane.Shell.Options
import IngressPlane.Shell.PerlPattern

/-!
The program `grep`, which selects lines by patterns. Its status is 0 when a line was selected, 1 when
none was, and 2 after a mistake.
-/
namespace IngressPlane.Shell.Search

open Text

def switches : List Switch :=
  plainSwitches "0123456789EFGHIPRTUVZbhruyz" ++ [
    { letter := some 'i', long := ["ignore-case"] }, { long := ["no-ignore-case"] },
    { letter := some 'v', long := ["invert-match"] }, { letter := some 'w', long := ["word-regexp"] },
    { letter := some 'x', long := ["line-regexp"] }, { letter := some 'c', long := ["count"] },
    { letter := some 'n', long := ["line-number"] }, { letter := some 'o', long := ["only-matching"] },
    { letter := some 'q', long := ["quiet", "silent"] }, { letter := some 's', long := ["no-messages"] },
    { letter := some 'a', long := ["text"] }, { letter := some 'l', long := ["files-with-matches"] },
    { letter := some 'L', long := ["files-without-match"] },
    { letter := some 'e', long := ["regexp"], value := .always },
    { letter := some 'f', long := ["file"], value := .always },
    { letter := some 'm', long := ["max-count"], value := .always },
    { letter := some 'A', long := ["after-context"], value := .always },
    { letter := some 'B', long := ["before-context"], value := .always },
    { letter := some 'C', long := ["context"], value := .always },
    { letter := some 'd', long := ["directories"], value := .always },
    { letter := some 'D', long := ["devices"], value := .always },
    { long := ["extended-regexp"] }, { long := ["fixed-strings"] }, { long := ["basic-regexp"] },
    { long := ["perl-regexp"] }, { long := ["with-filename"] }, { long := ["no-filename"] },
    { long := ["null-data"] }, { long := ["null"] }, { long := ["line-buffered"] },
    { long := ["byte-offset"] }, { long := ["initial-tab"] }, { long := ["binary"] },
    { long := ["recursive"] }, { long := ["dereference-recursive"] }, { long := ["version"] },
    { long := ["help"] }, { long := ["color", "colour"], value := .sometimes },
    { long := ["label"], value := .always }, { long := ["binary-files"], value := .always },
    { long := ["include"], value := .always }, { long := ["exclude"], value := .always },
    { long := ["exclude-from"], value := .always }, { long := ["exclude-dir"], value := .always },
    { long := ["group-separator"], value := .always }, { long := ["no-group-separator"] }]

inductive Matcher
  | written (dialect : Dialect)
  | fixed
  | perl
  deriving DecidableEq

inductive Mistake
  | options (mistake : OptionMistake)
  | noPattern
  | conflict
  | context (word : String)
  | maxCount
  | patternFile (path : String) (trouble : FileTrouble)
  /-- What is wrong with patterns, each with its file and line if it has some. -/
  | patterns (complaints : List (String × String))
  | manyPatterns
  deriving DecidableEq

def usage : String :=
  "Usage: grep [OPTION]... PATTERNS [FILE]...\nTry 'grep --help' for more information.\n"

def Mistake.message (title : String) (mistake : Mistake) : String :=
  let named (text : String) : String := title ++ ": " ++ text ++ "\n"
  match mistake with
  | .options mistake => named mistake.message ++ usage
  | .noPattern => usage
  | .conflict => named "conflicting matchers specified"
  | .context word => named (word ++ ": invalid context length argument")
  | .maxCount => named "invalid max count"
  | .patternFile path trouble => named (trouble.about path)
  | .patterns complaints => String.join (complaints.map fun (place, text) => named (place ++ text))
  | .manyPatterns => named "the -P option only supports a single pattern"

/-! ## What is asked for -/

structure Request where
  patterns : List Regex
  inverted : Bool := false
  /-- At most so many lines of a file are selected. -/
  limit : Option Nat := none
  quiet : Bool := false
  count : Bool := false
  /-- Names the files that have, or that have no, selected lines. -/
  listing : Option Bool := none
  onlyMatches : Bool := false
  numbered : Bool := false
  labelled : Bool := false
  before : Nat := 0
  after : Nat := 0
  separator : Char := '\n'
  binaryAsText : Bool := false
  silent : Bool := false

def matcherOf? (option : String) : Option Matcher :=
  if option = "E" || option = "extended-regexp" then some (.written .extended)
  else if option = "G" || option = "basic-regexp" then some (.written .basic)
  else if option = "F" || option = "fixed-strings" then some .fixed
  else if option = "P" || option = "perl-regexp" then some .perl
  else none

def matcher (g : Given) : Except Mistake Matcher :=
  match g.options.filterMap fun option => matcherOf? option.1 with
  | [] => .ok (.written .basic)
  | first :: others => if others.all (· = first) then .ok first else .error .conflict

def contextLength (word : String) : Except Mistake Nat :=
  match natural? word.toList with
  | some n => .ok n
  | none => .error (.context word)

def contextOption (g : Given) (name : String) : Except Mistake (Option Nat) :=
  match g.last? name with
  | some word => (contextLength word).map some
  | none => .ok none

def digitContext (g : Given) : Option Nat :=
  natural? ((g.options.map (·.1.toList)).filter fun name =>
    name.length = 1 && name.all isDigit).flatten

def limitOf (g : Given) : Except Mistake (Option Nat) :=
  match g.last? "m" with
  | none => .ok none
  | some word =>
    match integer? word.toList with
    | some n => .ok (if n < 0 then none else some n.toNat)
    | none => .error .maxCount

def ignoresCase (g : Given) : Bool :=
  match (g.options.filter fun o => ["i", "y", "no-ignore-case"].contains o.1).getLast? with
  | some (name, _) => name ≠ "no-ignore-case"
  | none => false

structure PatternText where
  text : String
  place : String := ""

def compile (matcher : Matcher) (g : Given) (pattern : String) :
    Except String (Regex × List String) := do
  let (r, warnings) ←
    match matcher with
    | .fixed => pure (literalPattern pattern, [])
    | .perl => pure (← perlPattern? pattern, [])
    | .written dialect =>
      match pattern? dialect pattern with
      | .ok found => pure found
      | .error e => throw e.message
  let r := if ignoresCase g then r.inAnyCase else r
  let around (first last : Assertion) : Regex := .concat (.look first) (.concat r (.look last))
  return (if g.has "x" then around .start .finish
    else if g.has "w" then around .clearBefore .clearAfter else r, warnings)

/-- The expressions for all patterns; all complaints are collected. -/
def compileAll (matcher : Matcher) (g : Given) (texts : List PatternText) :
    Except Mistake (List (Regex × List String)) :=
  let compiled := texts.map fun t => (t.place, compile matcher g t.text)
  let complaints := compiled.filterMap fun (place, result) =>
    match result with
    | .error complaint => some (place, complaint)
    | .ok _ => none
  if matcher = .perl && 1 < texts.length then .error .manyPatterns
  else if !complaints.isEmpty then .error (.patterns complaints)
  else .ok (compiled.filterMap fun (_, result) => result.toOption)

def patternTexts (m : Machine) (g : Given) :
    Except Mistake (List PatternText × List String × Machine) := do
  let step (state : List PatternText × Machine) (option : String × String) :
      Except Mistake (List PatternText × Machine) :=
    if option.1 = "e" then .ok (state.1 ++ (split '\n' option.2).map (⟨·, ""⟩), state.2)
    else if option.1 = "f" then
      match state.2.load option.2 with
      | (.ok contents, m) =>
        .ok (state.1 ++ (linesOf contents).zipIdx.map (fun (text, n) =>
          ⟨text, option.2 ++ ":" ++ (n + 1).repr ++ ": "⟩), m)
      | (.error trouble, _) => .error (.patternFile option.2 trouble)
    else .ok state
  let (texts, m) ← g.options.foldlM step ([], m)
  if g.has "e" || g.has "f" then return (texts, g.operands, m)
  match g.operands with
  | [] => throw .noPattern
  | pattern :: files => return ((split '\n' pattern).map (⟨·, ""⟩), files, m)

def shownNames (g : Given) (files : List String) : Bool :=
  match (g.options.filter fun o => ["H", "with-filename", "h", "no-filename"].contains o.1).getLast? with
  | some (name, _) => name = "H" || name = "with-filename"
  | none => 1 < files.length

def request (m : Machine) (g : Given) :
    Except Mistake (Request × List String × List String × Machine) := do
  let matcher ← matcher g
  let limit ← limitOf g
  let around := (← contextOption g "C").or (digitContext g)
  let before := ((← contextOption g "B").or around).getD 0
  let after := ((← contextOption g "A").or around).getD 0
  let (texts, files, m) ← patternTexts m g
  let compiled ← compileAll matcher g texts
  return ({
    patterns := compiled.map (·.1)
    inverted := g.has "v"
    limit
    quiet := g.has "q"
    count := g.has "c"
    listing := ((g.options.filter fun o => o.1 = "l" || o.1 = "L").getLast?).map (·.1 = "l")
    onlyMatches := g.has "o"
    numbered := g.has "n"
    labelled := shownNames g files
    before, after
    separator := if g.has "z" || g.has "null-data" then '\x00' else '\n'
    binaryAsText := g.has "a" || g.last? "binary-files" = some "text"
    silent := g.has "s" }, files, compiled.flatMap (·.2), m)

/-! ## Selecting -/

namespace Request

variable (request : Request)

def selects (line : String) : Bool :=
  let text := line.toList.toArray
  request.inverted != request.patterns.any (·.occursIn text)

def firstMatch? (text : Array Char) (start : Nat) : Option (Nat × Nat) :=
  (request.patterns.filterMap fun r => (r.find? text start).map fun (s, c) => (s, c.place)).foldl
    (fun best found =>
      match best with
      | none => some found
      | some b => if found.1 < b.1 || (found.1 = b.1 && b.2 < found.2) then some found else some b) none

def matchedParts (text : Array Char) : Nat → Nat → List String
  | 0, _ => []
  | fuel + 1, start =>
    match request.firstMatch? text start with
    | none => []
    | some (first, last) =>
      if first = last then matchedParts text fuel (first + 1)
      else String.ofList (text.extract first last).toList :: matchedParts text fuel last

/-- The lines of a file with their numbers, up to the last one that may be selected, and whether each
of them is. -/
def marked (contents : String) : List (String × Nat × Bool) :=
  let lines := (linesEnding request.separator contents).zipIdx 1
  let selected := lines.map fun (line, n) => (line, n, request.selects line)
  match request.limit with
  | none => selected
  | some limit =>
    let last := ((selected.filter (·.2.2)).take limit).getLast?
    selected.map fun (line, n, chosen) => (line, n, chosen && last.any (n ≤ ·.2.1))

def label (path : String) (number : Nat) (mark : String) : String :=
  (if request.labelled then path ++ mark else "")
    ++ if request.numbered then number.repr ++ mark else ""

def linesText (path : String) (lines : List (String × Nat × Bool)) : String :=
  let chosen := (lines.filter (·.2.2)).map (·.2.1)
  let near (n : Nat) : Bool := chosen.any fun c => c ≤ n + request.before && n ≤ c + request.after
  let ending := String.singleton request.separator
  let shown := lines.filter fun line => near line.2.1
  let text (line : String × Nat × Bool) : String :=
    if request.onlyMatches then
      if request.inverted || !line.2.2 then ""
      else
        let chars := line.1.toList.toArray
        String.join ((request.matchedParts chars (chars.size + 2) 0).map fun part =>
          request.label path line.2.1 ":" ++ part ++ ending)
    else request.label path line.2.1 (if line.2.2 then ":" else "-") ++ line.1 ++ ending
  let grouped := request.before ≠ 0 || request.after ≠ 0
  (shown.foldl (fun (written, previous) line =>
    let gap := grouped && previous ≠ 0 && line.2.1 ≠ previous + 1
    (written ++ (if gap then "--\n" else "") ++ text line, line.2.1)) ("", 0)).1

def fileText (path contents : String) : String × Bool :=
  let lines := request.marked contents
  let count := (lines.filter (·.2.2)).length
  let label := if request.labelled then path ++ ":" else ""
  (if request.quiet then ""
    else
      match request.listing with
      | some wanted => if (count ≠ 0) = wanted then path ++ "\n" else ""
      | none =>
        if request.count then label ++ count.repr ++ "\n"
        else if count = 0 then ""
        else if contents.contains '\x00' && request.separator = '\n' && !request.binaryAsText then
          "grep: " ++ path ++ ": binary file matches\n"
        else request.linesText path lines, count ≠ 0)

/-- Searches the files one after another; a quiet search ends at the first match. -/
def search (m : Machine) : List String → Bool × Bool × Machine
  | [] => (false, false, m)
  | path :: rest =>
    match m.load path with
    | (.error trouble, m) =>
      let m := if request.silent then m else m.report "grep" (trouble.about path)
      let (found, _, m) := search m rest
      (found, true, m)
    | (.ok contents, m) =>
      let (text, found) :=
        request.fileText (if path = "-" then "(standard input)" else path) contents
      let m := m.say text
      if found && request.quiet then (true, false, m)
      else
        let (more, failed, m) := search m rest
        (found || more, failed, m)

end Request

def answer (m : Machine) (g : Given) : Except Mistake Machine := do
  let (request, files, warnings, m) ← request m g
  let m := warnings.foldl (fun m w => m.report "grep" ("warning: " ++ w)) m
  let (found, failed, m) := request.search m (if files.isEmpty then ["-"] else files)
  return m.withStatus (if found && (!failed || request.quiet) then 0 else if failed then 2 else 1)

def run (words : List String) (m : Machine) : Machine :=
  let failed (mistake : Mistake) : Machine := (m.write 2 (mistake.message (m.titled "grep"))).withStatus 2
  match readOptions switches words with
  | .error mistake => failed (.options mistake)
  | .ok g =>
    if g.has "help" || g.has "version" || g.has "V" then m.withStatus 0
    else
      match answer m g with
      | .ok m => m
      | .error mistake => failed mistake

end IngressPlane.Shell.Search
