import IngressPlane.Shell.Signals

/-!
Builtins that work on variables, on the arguments of a script and on its settings.
-/
namespace IngressPlane.Shell

open Text

/-! ## Options of builtins -/

def builtinOptions (known : List Char) : List String → Except Char (List Char × List String)
  | [] => .ok ([], [])
  | word :: rest =>
    match word.toList with
    | ['-'] => .ok ([], word :: rest)
    | ['-', '-'] => .ok ([], rest)
    | '-' :: letters =>
      match letters.find? fun c => !known.contains c with
      | some c => .error c
      | none => (builtinOptions known rest).map fun (more, operands) => (letters ++ more, operands)
    | _ => .ok ([], word :: rest)

def withLetters (known : List Char) (body : List Char → List String → Machine → Outcome) : Builtin :=
  fun m words =>
    match builtinOptions known words with
    | .ok (letters, operands) => body letters operands m
    | .error c => .failed m ("Illegal option -" ++ String.singleton c)

def eachOperand (m : Machine) (operands : List String)
    (step : Machine → String → Except String Machine) : Outcome :=
  match operands.foldl (fun state operand =>
    match state with
    | (m, none) =>
      match step m operand with
      | .ok m => (m, none)
      | .error complaint => (m, some complaint)
    | failed => failed) (m, (none : Option String)) with
  | (m, none) => .ok m
  | (m, some complaint) => .failed m complaint

/-! ## Variables -/

def declaration (word : String) : String × Option String :=
  match splitOnce? '=' word with
  | some (name, value) => (name, some value)
  | none => (word, none)

def badName (name : String) : String := name ++ ": bad variable name"

def readOnly (name : String) : String := name ++ ": is read only"

def Machine.set (m : Machine) (name value : String) : Except String Machine :=
  let known := (m.bindings.get? name).getD {}
  if !isName name then .error (badName name)
  else if known.isFixed then .error (readOnly name)
  else .ok { m with bindings := m.bindings.insert name { known with value := some value } }

def variableLines (m : Machine) (start : String) (shown : Variable → Bool) : String :=
  unlines ((m.bindings.entries.filter fun entry => shown entry.2).map fun (name, v) =>
    start ++ name ++ (v.value.map fun value => "=" ++ singleQuoted value).getD "")

def declare (start : String) (mark : Variable → Variable) (isMarked : Variable → Bool) : Builtin :=
  withLetters ['p'] fun _ operands m =>
    if operands.isEmpty then .ok (m.say (variableLines m start isMarked))
    else
      eachOperand m operands fun m word => do
        let (name, value) := declaration word
        if !isName name then throw (badName name)
        let m ← match value with
          | some value => m.set name value
          | none => pure m
        let known := (m.bindings.get? name).getD {}
        return { m with bindings := m.bindings.insert name (mark known) }

def exportBuiltin : Builtin := declare "export " ({ · with exported := true }) (·.exported)

def readonlyBuiltin : Builtin := declare "readonly " ({ · with isFixed := true }) (·.isFixed)

def unset : Builtin := withLetters ['v', 'f'] fun letters operands m =>
  eachOperand m operands fun m name =>
    let (name, _) := declaration name
    if letters.contains 'f' then .ok { m with functions := m.functions.erase name }
    else if !isName name then .error (badName name)
    else if (m.bindings.get? name).any (·.isFixed) then .error (readOnly name)
    else .ok { m with bindings := m.bindings.erase name }

/-- Makes variables belong to the current function. Without a new value they keep the one they have. -/
def localBuiltin : Builtin := fun m words =>
  if m.calls = 0 then .failed m "not in a function"
  else
    eachOperand m words fun m word =>
      let (name, value) := declaration word
      if !isName name then .error (badName name)
      else
        let before := m.bindings.get? name
        let m := { m with locals := (name, before) :: m.locals }
        match value with
        | some value => m.set name value
        | none => .ok m

/-! ## Arguments -/

def shift : Builtin := fun m words =>
  match words with
  | [] => if m.arguments.isEmpty then .failed m "can't shift that many"
    else .ok { m with arguments := m.arguments.drop 1 }
  | word :: _ =>
    match naturalOf? word with
    | none => illegalNumber m word
    | some n =>
      if m.arguments.length < n then .failed m "can't shift that many"
      else .ok { m with arguments := m.arguments.drop n }

/-! ## Settings -/

inductive SettingMistake
  | unknownLetter (c : Char)
  | unknownName (name : String)

def SettingMistake.message (sign : Char) : SettingMistake → String
  | .unknownLetter c => "Illegal option " ++ String.ofList [sign, c]
  | .unknownName name => "Illegal option -o " ++ name

/-- Switches the settings of some letters on or off, as far as they are known. A name follows an `o`. -/
def setLetters (on : Bool) (m : Machine) (extra : List Char) :
    List Char → List String → Except SettingMistake (Machine × List Char × List String)
  | [], rest => .ok (m, extra, rest)
  | 'o' :: letters, name :: rest =>
    match settingNames.lookup name with
    | some letter => setLetters on (m.withSetting letter on) extra letters rest
    | none =>
      if name = "nolog" || name = "debug" then setLetters on m extra letters rest
      else .error (.unknownName name)
  | c :: letters, rest =>
    if settingNames.any (·.2 = c) then setLetters on (m.withSetting c on) extra letters rest
    else if c = 'o' || c = 'c' || c = 'l' then setLetters on m (c :: extra) letters rest
    else .error (.unknownLetter c)

abbrev SettingResult := Except (Char × SettingMistake) (Machine × List Char × Bool × List String)

/-- The settings in front of the operands. The letters that are no settings are kept, and whether a
word has ended the options. -/
def readSettings : Nat → Machine → List Char → List String → SettingResult
  | 0, m, extra, words => .ok (m, extra, false, words)
  | _, m, extra, [] => .ok (m, extra, false, [])
  | fuel + 1, m, extra, word :: rest =>
    match word.toList with
    | ['-'] => .ok ((m.withSetting 'x' false).withSetting 'v' false, extra, false, rest)
    | ['-', '-'] => .ok (m, extra, true, rest)
    | sign :: letters =>
      if sign = '-' || sign = '+' then
        match setLetters (sign = '-') m extra letters rest with
        | .ok (m, extra, rest) => readSettings fuel m extra rest
        | .error mistake => .error (sign, mistake)
      else .ok (m, extra, false, word :: rest)
    | [] => .ok (m, extra, false, word :: rest)

def settingLines (m : Machine) (commands : Bool) : String :=
  let names := settingNames ++ [("nolog", ' '), ("debug", ' ')]
  let line (entry : String × Char) : String :=
    let on := m.settings.contains entry.2
    if commands then "set " ++ (if on then "-o " else "+o ") ++ entry.1
    else entry.1 ++ String.ofList (List.replicate (16 - entry.1.length) ' ') ++ if on then "on" else "off"
  unlines ((if commands then [] else ["Current option settings"]) ++ names.map line)

def setBuiltin : Builtin := fun m words =>
  match words with
  | [] => .ok (m.say (variableLines m "" (·.value.isSome)))
  | ["-o"] => .ok (m.say (settingLines m false))
  | ["+o"] => .ok (m.say (settingLines m true))
  | _ =>
    match readSettings (words.length + 1) m [] words with
    | .error (sign, mistake) => .failed m (mistake.message sign)
    | .ok (changed, extra, ended, rest) =>
      match extra.filter (· ≠ 'o') with
      | c :: _ => .failed m ("Illegal option -" ++ String.singleton c)
      | [] => .ok (if ended || !rest.isEmpty then { changed with arguments := rest } else changed)

/-! ## Reading -/

/-- The octets of the next line, of which those after a backslash stand for themselves, and whether it
is complete. -/
def lineGlyphs (raw : Bool) : List Char → Nat → List (Char × Bool) × Nat × Bool
  | [], count => ([], count, false)
  | '\n' :: _, count => ([], count + 1, true)
  | '\\' :: rest, count =>
    if raw then
      let (glyphs, count, complete) := lineGlyphs raw rest (count + 1)
      (('\\', false) :: glyphs, count, complete)
    else
      match rest with
      | '\n' :: rest => lineGlyphs raw rest (count + 2)
      | c :: rest =>
        let (glyphs, count, complete) := lineGlyphs raw rest (count + 2)
        ((c, true) :: glyphs, count, complete)
      | [] => ([], count + 1, false)
  | '\x00' :: rest, count => lineGlyphs raw rest (count + 1)
  | c :: rest, count =>
    let (glyphs, count, complete) := lineGlyphs raw rest (count + 1)
    ((c, false) :: glyphs, count, complete)

def trimmedEnd (separators : List Char) (glyphs : List (Char × Bool)) : List (Char × Bool) :=
  (glyphs.reverse.dropWhile fun g => !g.2 && isSpace g.1 && separators.contains g.1).reverse

/-- A line cut into as many fields as there are names; what is left belongs to the last one. -/
def lineFields (separators : List Char) : Nat → List (Char × Bool) → List String
  | 0, _ => []
  | names + 1, glyphs =>
    let isBlank (g : Char × Bool) : Bool := !g.2 && isSpace g.1 && separators.contains g.1
    let isSeparator (g : Char × Bool) : Bool := !g.2 && separators.contains g.1
    let glyphs := glyphs.dropWhile isBlank
    let field := glyphs.takeWhile (!isSeparator ·)
    let afterBlanks := (glyphs.drop field.length).dropWhile isBlank
    let after := match afterBlanks with
      | g :: rest => if isSeparator g then rest.dropWhile isBlank else g :: rest
      | [] => []
    let text (glyphs : List (Char × Bool)) : String := String.ofList (glyphs.map (·.1))
    if names = 0 then
      [text (if after.isEmpty then field else trimmedEnd separators glyphs)]
    else text field :: lineFields separators names after

def readBuiltin : Builtin := fun m words =>
  let words := match words with
    | "-p" :: _ :: rest => rest
    | "-r" :: "-p" :: _ :: rest => "-r" :: rest
    | words => words
  withLetters ['r'] (fun letters names m =>
    if names.isEmpty then .failed m "arg count"
    else
      let (glyphs, count, complete) := lineGlyphs (letters.contains 'r') (m.unread 0).toList 0
      let m := m.advance 0 count
      let values := lineFields m.separators names.length glyphs
      let step (m : Machine) (pair : String × String) : Except String Machine :=
        m.set (declaration pair.1).1 pair.2
      match (names.zip values).foldlM step m with
      | .ok m => .done (m.withStatus (if complete then 0 else 1))
      | .error complaint => .failed m complaint) m words

/-! ## Option words -/

inductive OptionFound
  | finished (next : Nat)
  | letter (c : Char) (value : Option String) (next lettersRead : Nat)
  | unknown (c : Char) (next lettersRead : Nat)
  | valueMissing (c : Char) (next : Nat)

/-- The next option letter. A colon behind a letter says that a value follows. Once a letter of a word
has been read, the place is behind that word. -/
def nextOption (known : List Char) (words : List String) (place lettersRead : Nat) : OptionFound :=
  let current := if lettersRead = 0 then place else place - 1
  match (words.drop (current - 1)).head?.map String.toList with
  | some ['-', '-'] => .finished (current + 1)
  | some ('-' :: letters) =>
    match letters.drop lettersRead with
    | [] => .finished current
    | c :: rest =>
      let next := current + 1
      let lettersRead := if rest.isEmpty then 0 else lettersRead + 1
      match known.dropWhile (· ≠ c) with
      | _ :: ':' :: _ =>
        if c = ':' then .unknown c next lettersRead
        else if !rest.isEmpty then .letter c (some (String.ofList rest)) next 0
        else
          match (words.drop current).head? with
          | some value => .letter c (some value) (next + 1) 0
          | none => .valueMissing c next
      | _ :: _ => if c = ':' then .unknown c next lettersRead else .letter c none next lettersRead
      | [] => .unknown c next lettersRead
  | _ => .finished current

def getopts : Builtin := fun m words =>
  match words with
  | known :: name :: rest =>
    let place := (((m.valueOf? "OPTIND").bind naturalOf?).getD 1)
    let letters := known.toList
    let isQuiet := letters.head? = some ':'
    let words := if rest.isEmpty then m.arguments else rest
    let continued (m : Machine) (answer : String) (value : Option String) (next lettersRead : Nat)
        (status : Nat) : Outcome :=
      let m := match value with
        | some value => m.assign "OPTARG" value
        | none => { m with bindings := m.bindings.erase "OPTARG" }
      match (m.set "OPTIND" next.repr).bind (·.set (declaration name).1 answer) with
      | .ok m => .done ({ m with lettersRead }.withStatus status)
      | .error complaint => .failed m complaint
    match nextOption letters words (max place 1) m.lettersRead with
    | .finished next => continued m "?" none next 0 1
    | .letter c value next lettersRead =>
      continued m (String.singleton c) value next lettersRead 0
    | .unknown c next lettersRead =>
      if isQuiet then continued m "?" (some (String.singleton c)) next lettersRead 0
      else
        continued (m.write 2 ("Illegal option -" ++ String.singleton c ++ "\n")) "?" none next
          lettersRead 0
    | .valueMissing c next =>
      if isQuiet then continued m ":" (some (String.singleton c)) next 0 0
      else
        continued (m.write 2 ("No arg for -" ++ String.singleton c ++ " option\n")) "?" none next 0 0
  | _ => .failed m "Usage: getopts optstring var [arg...]"

end IngressPlane.Shell
