import IngressPlane.Shell.Format
import IngressPlane.Shell.Machine
import IngressPlane.Shell.Options
import IngressPlane.Shell.Quotation
import IngressPlane.Text.AsciiCase

/-!
Programs that read files, or their input where no file is named, and write what they make of it.
-/
namespace IngressPlane.Shell

open Text

abbrev Program := List String → Machine → Machine

def misuse (program : String) (m : Machine) (complaint : String) : Machine :=
  ((m.report program complaint).write 2
    ("Try '" ++ m.titled program ++ " --help' for more information.\n")).withStatus
      (if ["sort", "ls", "cmp"].contains program then 2 else 1)

/-- Options that only ask for words about a program, which are not modelled. -/
def informing : List Switch := [{ long := ["help"] }, { long := ["version"] }]

def Given.onlyAsks (g : Given) : Bool := g.has "help" || g.has "version"

def withOptions (program : String) (switches : List Switch) (body : Given → Machine → Machine) :
    Program := fun words m =>
  match readOptions (switches ++ informing) words with
  | .ok g => if g.onlyAsks then m.withStatus 0 else body g m
  | .error mistake => misuse program m mistake.message

def orInput (operands : List String) : List String := if operands.isEmpty then ["-"] else operands

def eachFile (program : String) (wording : String → FileTrouble → String) (make : String → String)
    (operands : List String) (m : Machine) : Machine :=
  let (m, allRead) := m.forFiles program wording (fun m _ contents => m.say (make contents))
    (orInput operands)
  m.withStatus (if allRead then 0 else 1)

def numbered (width n : Nat) : String :=
  let digits := n.repr
  String.ofList (List.replicate (width - digits.length) ' ') ++ digits

def whenRead (path : String) (trouble : FileTrouble) : String := trouble.about (shellWord path)

/-! ## Whole files -/

def decorated (g : Given) (contents : String) : String :=
  let numbers := g.has "n" || g.has "b"
  let ends := g.has "E" || g.has "A" || g.has "e"
  if !numbers && !ends then contents
  else
    let lines := linesOf contents
    let complete := contents.endsWith "\n"
    let shown := (lines.zipIdx 1).map fun (line, n) =>
      (if numbers then numbered 6 n ++ "\t" else "") ++ line
        ++ (if n = lines.length && !complete then "" else if ends then "$\n" else "\n")
    String.join shown

def cat : Program := withOptions "cat" (plainSwitches "nbEAestTuv") fun g m =>
  eachFile "cat" whenRead (decorated g) g.operands m

def completeLines (contents : String) : List String :=
  let lines := (linesOf contents).map (· ++ "\n")
  if contents = "" || contents.endsWith "\n" then lines
  else lines.dropLast ++ [(lines.getLastD "\n").dropEnd 1 |>.toString]

def backwards : Program := withOptions "tac" [] fun g m =>
  eachFile "tac" (fun path trouble => "failed to open " ++ shellQuoted path ++ " for reading: " ++ trouble.text)
    (fun contents => String.join (completeLines contents).reverse) g.operands m

/-! ## The start or the end of files -/

structure Share where
  bytes : Bool := false
  count : Nat := 10
  /-- The count is of what is left out at the other end. -/
  allBut : Bool := false

def takeFirst {α : Type} (share : Share) (items : List α) : List α :=
  if share.allBut then items.take (items.length - share.count) else items.take share.count

def takeLast {α : Type} (share : Share) (items : List α) : List α :=
  if share.allBut then items.drop (share.count - 1) else items.drop (items.length - share.count)

def wholeLines (contents : String) : List String :=
  let lines := linesOf contents
  if contents.endsWith "\n" then lines.map (· ++ "\n")
  else lines.dropLast.map (· ++ "\n") ++ lines.getLast?.toList

def Share.cut (share : Share) (select : {α : Type} → Share → List α → List α) (contents : String) :
    String :=
  if share.bytes then String.ofList (select share contents.toList)
  else String.join (select share (wholeLines contents))

/-- A count, with the sign in front that asks for all but so many. -/
def share? (sign : Char) (bytes : Bool) (word : String) : Option Share :=
  match word.toList with
  | [] => none
  | c :: digits =>
    if c = sign then (natural? digits).map fun count => { bytes, count, allBut := true }
    else
      (natural? (if c = '-' then digits else c :: digits)).map fun count => { bytes, count }

/-- A first word of digits after a hyphen is a count of lines. -/
def modernCount : List String → List String
  | word :: rest =>
    match word.toList with
    | '-' :: d :: digits =>
      if isDigit d && digits.all isDigit then "-n" :: String.ofList (d :: digits) :: rest
      else word :: rest
    | _ => word :: rest
  | [] => []

def partSwitches : List Switch :=
  plainSwitches "qvzf" ++ [
    { letter := some 'n', long := ["lines"], value := .always },
    { letter := some 'c', long := ["bytes"], value := .always },
    { long := ["quiet", "silent"] }, { long := ["verbose"] }]

def partOfFiles (program : String) (sign : Char)
    (select : {α : Type} → Share → List α → List α) : Program := fun words m =>
  withOptions program partSwitches (fun g m =>
    let (bytes, word) : Bool × String := match (g.options.filter fun o => o.1 = "n" || o.1 = "c").getLast? with
      | some (name, word) => (name = "c", word)
      | none => (false, "10")
    match share? sign bytes word with
    | none =>
      (m.report program ("invalid number of " ++ (if bytes then "bytes" else "lines") ++ ": "
        ++ inQuotes word)).withStatus 1
    | some share =>
      let paths := orInput g.operands
      let headed := (1 < paths.length && !g.has "q" && !g.has "quiet") || g.has "v"
      let wording (path : String) (trouble : FileTrouble) : String :=
        match trouble with
        | .missing => "cannot open " ++ shellQuoted path ++ " for reading: " ++ trouble.text
        | .directory => "error reading " ++ shellQuoted path ++ ": " ++ trouble.text
      let (m, allRead) := m.forFiles program wording (fun m path contents =>
        let heading := if headed then
            "==> " ++ (if path = "-" then "standard input" else path) ++ " <==\n"
          else ""
        m.say (heading ++ share.cut select contents)) paths
      m.withStatus (if allRead then 0 else 1)) (modernCount words) m

def head : Program := partOfFiles "head" '-' takeFirst

def tail : Program := partOfFiles "tail" '+' takeLast

/-! ## Counting -/

def countWords (contents : String) : Nat :=
  (contents.toList.foldl (fun (count, inWord) c =>
    if isSpace c then (count, false) else (if inWord then count else count + 1, true)) (0, false)).1

def counts (g : Given) (contents : String) : List Nat :=
  let all := !(["l", "w", "c", "m", "L"].any g.has)
  (if all || g.has "l" then [contents.toList.count '\n'] else [])
    ++ (if all || g.has "w" then [countWords contents] else [])
    ++ (if g.has "m" then [contents.length] else [])
    ++ (if all || g.has "c" then [contents.length] else [])
    ++ (if g.has "L" then [((linesOf contents).map String.length).max?.getD 0] else [])

def knownSize? (m : Machine) (path : String) : Option Nat :=
  if path ≠ "-" then some ((m.contents? path).getD "").length
  else
    match (m.connection? 0).map OpenFile.target with
    | some (Target.file name) => some ((m.contents? name).getD "").length
    | _ => none

/-- How wide counts are written: as wide as the size of all files, and wider where input has no size. -/
def countWidth (m : Machine) (paths : List String) (shown : Nat) : Nat :=
  if paths.length = 1 && shown = 1 then 1
  else
    let sizes : List (Option Nat) := paths.map (knownSize? m)
    let total : Nat := (sizes.filterMap id).foldl Nat.add 0
    max total.repr.length (if sizes.contains none then 7 else 1)

def wc : Program :=
  withOptions "wc" [
    { letter := some 'l', long := ["lines"] }, { letter := some 'w', long := ["words"] },
    { letter := some 'c', long := ["bytes"] }, { letter := some 'm', long := ["chars"] },
    { letter := some 'L', long := ["max-line-length"] }] fun g m =>
  let paths := orInput g.operands
  let width := countWidth m paths (counts g "").length
  let line (numbers : List Nat) (name : String) : String :=
    join " " (numbers.map (numbered width)) ++ (if name = "" then "" else " " ++ name) ++ "\n"
  let step (state : Machine × List (List Nat)) (path : String) : Machine × List (List Nat) :=
    match state.1.load path with
    | (.ok contents, m) =>
      (m.say (line (counts g contents) (if g.operands.isEmpty then "" else path)),
        state.2 ++ [counts g contents])
    | (.error trouble, m) => ((m.report "wc" (whenRead path trouble)).withStatus 1, state.2)
  let (m, found) := paths.foldl step (m.withStatus 0, [])
  if paths.length ≤ 1 then m
  else
    let total := found.foldl (fun total numbers => List.zipWith (· + ·) total numbers)
      (List.replicate (counts g "").length 0)
    m.say (line total "total")

/-! ## Characters -/

def characterSet : Nat → List Char → List Char
  | 0, _ => []
  | _, [] => []
  | fuel + 1, '\\' :: rest =>
    let (octet, rest) := Format.backslashed rest
    match octet, rest with
    | '\\', c :: more => if c = '\\' then '\\' :: characterSet fuel more else characterSet fuel (c :: more)
    | octet, rest => octet :: characterSet fuel rest
  | fuel + 1, '[' :: ':' :: rest =>
    let name := rest.takeWhile (·.isAlpha)
    match rest.drop name.length, setClass? (String.ofList name) with
    | ':' :: ']' :: rest, some chars => chars ++ characterSet fuel rest
    | _, _ => '[' :: ':' :: characterSet fuel rest
  | fuel + 1, low :: '-' :: high :: rest =>
    ((List.range (high.toNat + 1 - low.toNat)).map fun n => Char.ofNat (low.toNat + n))
      ++ characterSet fuel rest
  | fuel + 1, c :: rest => c :: characterSet fuel rest
where
  between (low high : Char) : List Char :=
    (List.range (high.toNat + 1 - low.toNat)).map fun n => Char.ofNat (low.toNat + n)
  setClass? (name : String) : Option (List Char) :=
    if name = "digit" then some (between '0' '9')
    else if name = "lower" then some (between 'a' 'z')
    else if name = "upper" then some (between 'A' 'Z')
    else if name = "alpha" then some (between 'A' 'Z' ++ between 'a' 'z')
    else if name = "alnum" then some (between '0' '9' ++ between 'A' 'Z' ++ between 'a' 'z')
    else if name = "space" then some (between '\t' '\r' ++ [' '])
    else if name = "blank" then some ['\t', ' ']
    else if name = "punct" then
      some ((between '!' '~').filter fun c => !c.isAlphanum)
    else if name = "cntrl" then some (between '\x00' '\x1f' ++ ['\x7f'])
    else if name = "print" then some (between ' ' '~')
    else if name = "graph" then some (between '!' '~')
    else if name = "xdigit" then some (between '0' '9' ++ between 'A' 'F' ++ between 'a' 'f')
    else none

/-- The character that takes the place of another one; the last of the second set is used again. -/
def exchanged (source target : List Char) (complement : Bool) (c : Char) : Char :=
  if complement then if source.contains c then c else target.getLastD c
  else
    match (source.zipIdx.filter (·.1 = c)).getLast? with
    | some (_, n) => (target[n]?).getD (target.getLastD c)
    | none => c

def squeezed (member : Char → Bool) : List Char → List Char
  | a :: b :: rest =>
    if a = b && member a then squeezed member (b :: rest) else a :: squeezed member (b :: rest)
  | cs => cs

def tr : Program :=
  withOptions "tr" [
    { letter := some 'd', long := ["delete"] }, { letter := some 's', long := ["squeeze-repeats"] },
    { letter := some 'c', long := ["complement"] }, { letter := some 'C' },
    { letter := some 't', long := ["truncate-set1"] }] fun g m =>
  let set (word : String) : List Char := characterSet (word.length + 1) word.toList
  let complement := g.has "c" || g.has "C"
  let input := (m.unread 0).toList
  let write (chars : List Char) : Machine := ((m.consume 0).say (String.ofList chars)).withStatus 0
  let member (chars : List Char) (c : Char) : Bool := complement != chars.contains c
  match g.operands, g.has "d", g.has "s" with
  | [], _, _ => misuse "tr" m "missing operand"
  | [a], true, false => write (input.filter fun c => !member (set a) c)
  | [a], false, true => write (squeezed (member (set a)) input)
  | [a, b], true, true =>
    write (squeezed (set b).contains (input.filter fun c => !member (set a) c))
  | [_, b], true, false =>
    misuse "tr" m ("extra operand " ++ inQuotes b
      ++ "\nOnly one string may be given when deleting without squeezing repeats.")
  | [a], _, _ =>
    misuse "tr" m ("missing operand after " ++ inQuotes a
      ++ "\nTwo strings must be given when translating.")
  | [a, b], false, squeeze =>
    if b = "" then
      (m.report "tr" "when not truncating set1, string2 must be non-empty").withStatus 1
    else
      let out := input.map (exchanged (set a) (set b) complement)
      write (if squeeze then squeezed (set b).contains out else out)
  | _ :: _ :: c :: _, _, _ => misuse "tr" m ("extra operand " ++ inQuotes c)

/-! ## Columns -/

abbrev Ranges := List (Nat × Option Nat)

inductive RangeMistake
  | notNumber (word : String)
  | zero
  | decreasing

def range? (word : String) : Except RangeMistake (Nat × Option Nat) :=
  let number (s : String) : Except RangeMistake Nat :=
    match natural? s.toList with
    | some 0 => .error .zero
    | some n => .ok n
    | none => .error (.notNumber s)
  match splitOnce? '-' word with
  | none => (number word).map fun n => (n, some n)
  | some (low, high) => do
    let first ← if low = "" then pure 1 else number low
    if high = "" then return (first, none)
    let last ← number high
    if last < first then throw .decreasing
    return (first, some last)

def inRanges (ranges : Ranges) (n : Nat) : Bool :=
  ranges.any fun (first, last) => first ≤ n && last.all (n ≤ ·)

def cutLine (g : Given) (byFields : Bool) (delimiter : Char) (ranges : Ranges) (line : String) :
    Option String :=
  let taken {α : Type} (items : List α) : List α :=
    ((items.zipIdx 1).filter fun (_, n) => inRanges ranges n).map (·.1)
  if !byFields then some (String.ofList (taken line.toList))
  else
    match split delimiter line with
    | [_] => if g.has "s" then none else some line
    | fields => some (join ((g.last? "output-delimiter").getD (String.singleton delimiter)) (taken fields))

def cut : Program :=
  withOptions "cut" [
    { letter := some 'b', long := ["bytes"], value := .always },
    { letter := some 'c', long := ["characters"], value := .always },
    { letter := some 'f', long := ["fields"], value := .always },
    { letter := some 'd', long := ["delimiter"], value := .always },
    { letter := some 's', long := ["only-delimited"] }, { letter := some 'n' },
    { long := ["output-delimiter"], value := .always }] fun g m =>
  let byFields := g.has "f"
  match (g.last? "f").or ((g.last? "c").or (g.last? "b")), ((g.last? "d").getD "\t").toList with
  | none, _ => misuse "cut" m "you must specify a list of bytes, characters, or fields"
  | some list, [delimiter] =>
    match ((list.toList.map fun c => if c = ' ' then ',' else c) |> pieces ',').mapM
        fun word => range? (String.ofList word) with
    | .ok ranges =>
      eachFile "cut" whenRead (fun contents =>
        unlines ((linesOf contents).filterMap (cutLine g byFields delimiter ranges))) g.operands m
    | .error (.notNumber word) =>
      misuse "cut" m (if byFields then "invalid field value " ++ inQuotes word
        else "invalid byte/character position " ++ inQuotes word)
    | .error .zero =>
      misuse "cut" m (if byFields then "fields are numbered from 1"
        else "byte/character positions are numbered from 1")
    | .error .decreasing => misuse "cut" m "invalid decreasing range"
  | some _, _ => misuse "cut" m "the delimiter must be a single character"

/-! ## Order -/

def leadingNumber (line : String) : Int :=
  let cs := line.toList.dropWhile fun c => c = ' ' || c = '\t'
  match cs with
  | '-' :: digits => -(digitsValue (digits.takeWhile isDigit) : Int)
  | digits => (digitsValue (digits.takeWhile isDigit) : Int)

def inOrder (numeric foldCase reversed : Bool) (a b : String) : Bool :=
  let folded (s : String) : String := if foldCase then Text.asciiUpper s else s
  let byText := if folded a = folded b then a ≤ b else folded a ≤ folded b
  let forward := if numeric && leadingNumber a ≠ leadingNumber b then leadingNumber a < leadingNumber b
    else byText
  a = b || (reversed != forward)

def sort : Program :=
  withOptions "sort" (plainSwitches "bdfgiMhnRrVcCmsuz" ++ [
    { letter := some 'k', long := ["key"], value := .always },
    { letter := some 't', long := ["field-separator"], value := .always },
    { letter := some 'o', long := ["output"], value := .always },
    { long := ["unique"] }, { long := ["reverse"] }, { long := ["numeric-sort"] }]) fun g m =>
  let numeric := g.has "n" || g.has "numeric-sort"
  let order := inOrder numeric (g.has "f") (g.has "r" || g.has "reverse")
  let step (state : List String × Machine × Option (String × FileTrouble)) (path : String) :
      List String × Machine × Option (String × FileTrouble) :=
    match state with
    | (lines, m, none) =>
      match m.load path with
      | (.ok contents, m) => (lines ++ linesOf contents, m, none)
      | (.error trouble, m) => (lines, m, some (path, trouble))
    | failed => failed
  match (orInput g.operands).foldl step ([], m, none) with
  | (_, m, some (path, trouble)) =>
    (m.report "sort" ((match trouble with
      | .missing => "cannot read: "
      | .directory => "read failed: ") ++ whenRead path trouble)).withStatus 2
  | (lines, m, none) =>
    let sorted := lines.mergeSort order
    let same (a b : String) : Bool :=
      if numeric then leadingNumber a = leadingNumber b
      else if g.has "f" then asciiUpper a = asciiUpper b else a = b
    let kept := if g.has "u" || g.has "unique" then
        sorted.foldr (fun line kept =>
          match kept with
          | [] => [line]
          | next :: rest => if same line next then line :: rest else line :: next :: rest) []
      else sorted
    (m.say (unlines kept)).withStatus 0

def lineRuns (same : String → String → Bool) (lines : List String) : List (String × Nat) :=
  lines.foldr (fun line runs =>
    match runs with
    | (next, count) :: rest =>
      if same line next then (line, count + 1) :: rest else (line, 1) :: (next, count) :: rest
    | [] => [(line, 1)]) []

def uniq : Program :=
  withOptions "uniq" (plainSwitches "cdiuDz" ++ [
    { long := ["count"] }, { long := ["repeated"] }, { long := ["unique"] }]) fun g m =>
  let same (a b : String) : Bool := if g.has "i" then sameIgnoringAsciiCase a b else a = b
  let line (run : String × Nat) : Option String :=
    if ((g.has "d" || g.has "repeated") && run.2 < 2) || ((g.has "u" || g.has "unique") && 1 < run.2)
    then none
    else some ((if g.has "c" || g.has "count" then numbered 7 run.2 ++ " " else "") ++ run.1)
  eachFile "uniq" whenRead (fun contents =>
    unlines ((lineRuns same (linesOf contents)).filterMap line)) (g.operands.take 1) m

end IngressPlane.Shell
