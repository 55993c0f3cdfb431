import IngressPlane.Text.Search

/-!
The options of a program: letters after a hyphen, which may be written together, and long names after
two of them. Options may stand among the operands.
-/
namespace IngressPlane.Shell

inductive ValueRule
  | never
  | always
  /-- Only where it is written together with the option. -/
  | sometimes
  deriving DecidableEq

structure Switch where
  letter : Option Char := none
  long : List String := []
  value : ValueRule := .never

def Switch.name (s : Switch) : String :=
  match s.letter with
  | some c => String.singleton c
  | none => s.long.headD ""

def plainSwitches (letters : String) : List Switch :=
  letters.toList.map fun c => { letter := some c }

inductive OptionMistake
  | invalid (letter : Char)
  | valueMissing (letter : Char)
  | unrecognized (word : String)
  | ambiguous (word : String) (possible : List String)
  | longValueMissing (name : String)
  | valueNotAllowed (name : String)
  deriving DecidableEq

def OptionMistake.message : OptionMistake → String
  | .invalid letter => "invalid option -- '" ++ String.singleton letter ++ "'"
  | .valueMissing letter => "option requires an argument -- '" ++ String.singleton letter ++ "'"
  | .unrecognized word => "unrecognized option '--" ++ word ++ "'"
  | .ambiguous word possible =>
    "option '--" ++ word ++ "' is ambiguous; possibilities:"
      ++ String.join (possible.map fun name => " '--" ++ name ++ "'")
  | .longValueMissing name => "option '--" ++ name ++ "' requires an argument"
  | .valueNotAllowed name => "option '--" ++ name ++ "' doesn't allow an argument"

structure Given where
  options : List (String × String) := []
  operands : List String := []

namespace Given

def has (g : Given) (name : String) : Bool := g.options.any (·.1 = name)

def last? (g : Given) (name : String) : Option String := (g.options.reverse.find? (·.1 = name)).map (·.2)

def values (g : Given) (name : String) : List String := (g.options.filter (·.1 = name)).map (·.2)

end Given

/-- Options that have been read, and whether the word after them was the value of the last one. -/
abbrev ReadOptions := Except OptionMistake (List (String × String) × Bool)

def readLetters (switches : List Switch) (following : Option String) : List Char → ReadOptions
  | [] => .ok ([], false)
  | c :: rest =>
    match switches.find? (·.letter = some c) with
    | none => .error (.invalid c)
    | some switch =>
      match switch.value, rest, following with
      | .never, _, _ =>
        (readLetters switches following rest).map fun (more, taken) => ((switch.name, "") :: more, taken)
      | .sometimes, _, _ => .ok ([(switch.name, String.ofList rest)], false)
      | .always, [], none => .error (.valueMissing c)
      | .always, [], some word => .ok ([(switch.name, word)], true)
      | .always, _, _ => .ok ([(switch.name, String.ofList rest)], false)

def findLong (switches : List Switch) (word : String) : Except OptionMistake (Switch × String) :=
  let named := switches.flatMap fun s => s.long.map fun name => (s, name)
  match named.find? (·.2 = word) with
  | some found => .ok found
  | none =>
    match named.filter fun entry => Text.hasPrefix word entry.2 with
    | [] => .error (.unrecognized word)
    | found :: others =>
      if others.all (·.1.name = found.1.name) then .ok found
      else .error (.ambiguous word ((found :: others).map (·.2)))

def readLong (switches : List Switch) (following : Option String) (word : String) : ReadOptions := do
  let (name, value) := match Text.splitOnce? '=' word with
    | some (name, value) => (name, some value)
    | none => (word, none)
  let (switch, name) ← match findLong switches name with
    | .ok found => pure found
    | .error (.unrecognized _) => throw (.unrecognized word)
    | .error e => throw e
  match switch.value, value, following with
  | .never, some _, _ => throw (.valueNotAllowed name)
  | .always, none, none => throw (.longValueMissing name)
  | .always, none, some word => return ([(switch.name, word)], true)
  | _, value, _ => return ([(switch.name, value.getD "")], false)

/-- What a word of a call says about options; none for an operand. -/
def readWord? (switches : List Switch) (following : Option String) (word : String) :
    Option ReadOptions :=
  match word.toList with
  | '-' :: '-' :: name => some (readLong switches following (String.ofList name))
  | '-' :: letter :: letters => some (readLetters switches following (letter :: letters))
  | _ => none

def readOptions (switches : List Switch) : List String → Except OptionMistake Given
  | [] => .ok {}
  | "--" :: rest => .ok { operands := rest }
  | word :: rest =>
    match readWord? switches rest.head? word with
    | none => (readOptions switches rest).map fun more => { more with operands := word :: more.operands }
    | some read => do
      let (options, valueTaken) ← read
      let more ←
        match valueTaken, rest with
        | true, _ :: rest => readOptions switches rest
        | _, rest => readOptions switches rest
      return { more with options := options ++ more.options }

end IngressPlane.Shell
