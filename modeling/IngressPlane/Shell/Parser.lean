import IngressPlane.Shell.Source

/-!
Reading commands. A script is read one line at a time, or more lines where a command goes on, so
that the lines before a mistake can be run.
-/
namespace IngressPlane.Shell

open Parse

inductive Place
  | plain
  /-- The mark of a document, in which nothing is expanded. -/
  | mark
  | quoted
  /-- Inside of the braces of an expansion, which may be in quotes. -/
  | operand (inQuotes : Bool)
  | document
  deriving DecidableEq

namespace Place

def isQuoted : Place → Bool
  | .quoted => true
  | .operand inQuotes => inQuotes
  | .document => true
  | _ => false

def isEnd (place : Place) (c : Char) : Bool :=
  match place with
  | .plain => endsWord c
  | .mark => endsWord c
  | .quoted => c = '"'
  | .operand _ => c = '\x7d'
  | .document => false

/-- Whether the sign at the end belongs to the part. -/
def takesEnd : Place → Bool
  | .quoted => true
  | .operand _ => true
  | _ => false

def isOrdinary (place : Place) (c : Char) : Bool :=
  !(['\\', '\'', '"', '$', backquote].contains c || place.isEnd c)

/-- Whether a backslash in quotes takes the meaning from a character. -/
def escapes (place : Place) (c : Char) : Bool :=
  c = '$' || c = '\\' || c = backquote ||
    match place with
    | .quoted => c = '"'
    | .operand _ => c = '"' || c = '\x7d'
    | _ => false

def atEndOfFile (place : Place) : Parse Unit :=
  match place with
  | .quoted => fail "Unterminated quoted string"
  | .operand true => fail "Unterminated quoted string"
  | .operand false => fail "Missing '\x7d'"
  | _ => return

end Place

inductive Extent
  /-- Those of a line. -/
  | line
  /-- Those up to a closing word, of which there is at least one. -/
  | block
  /-- Those up to a closing sign. -/
  | enclosed
  deriving DecidableEq

def specialBuiltins : List String := [
  ".", ":", "break", "continue", "eval", "exec", "exit", "export", "local", "readonly", "return",
  "set", "shift", "times", "trap", "unset"]

def commandsOf : List Command → Command
  | [c] => c
  | cs => .sequence cs

/-! ## Parameters in braces -/

def parameterName (cs : List Char) : List Char :=
  match cs with
  | c :: _ => if c.isDigit then cs.takeWhile (·.isDigit) else cs.takeWhile isNameChar
  | [] => []

/-- The name of a parameter in braces and whether its length is meant; none if it is no name. -/
def braceParameter? (cs : List Char) : Option (String × Bool × List Char) :=
  let named (length : Bool) (cs : List Char) : Option (String × Bool × List Char) :=
    let name := parameterName cs
    if name.isEmpty then none else some (String.ofList name, length, cs.drop name.length)
  match cs with
  | '#' :: c :: rest =>
    if isNameChar c then named true (c :: rest)
    else if isSpecialParameter c && rest.head? = some '\x7d' then some (String.singleton c, true, rest)
    else some ("#", false, c :: rest)
  | c :: rest =>
    if isNameChar c then named false cs
    else if isSpecialParameter c then some (String.singleton c, false, rest)
    else none
  | [] => none

inductive BraceOperator
  | instead (how : Instead) (orEmpty : Bool)
  | trim (atEnd longest : Bool)
  | close
  | unknown

def instead? : Char → Option Instead
  | '-' => some .word
  | '=' => some .assigned
  | '+' => some .nothing
  | '?' => some .complaint
  | _ => none

/-- The operator after a parameter, and what follows it. A character that is none is passed over. -/
def braceOperator : List Char → BraceOperator × List Char
  | '\x7d' :: rest => (.close, rest)
  | ':' :: c :: rest =>
    match instead? c with
    | some how => (.instead how true, rest)
    | none => (.unknown, rest)
  | '#' :: '#' :: rest => (.trim false true, rest)
  | '#' :: rest => (.trim false false, rest)
  | '%' :: '%' :: rest => (.trim true true, rest)
  | '%' :: rest => (.trim true false, rest)
  | c :: rest =>
    match instead? c with
    | some how => (.instead how false, rest)
    | none => (.unknown, rest)
  | [] => (.unknown, [])

/-! ## Words -/

structure Reader where
  word : Place → Parse Word
  /-- What follows a dollar sign. -/
  expansion : (quoted : Bool) → Parse Segment
  list : Extent → Parse (Option Command)
  command : (skipLines keywords : Bool) → Parse Command

namespace Reader

variable (inner : Reader)

def braces (quoted : Bool) : Parse Segment := do
  let cs ← rest
  match braceParameter? cs with
  | none =>
    goTo (if cs.head? = some '\x7d' then cs else cs.drop 1)
    let _ ← inner.word (.operand quoted)
    return .parameter "" .unknown quoted
  | some (name, length, after) =>
    let (operator, rest) := braceOperator after
    goTo (if length && after.head? ≠ some '\x7d' then after else rest)
    match operator, length with
    | .close, true => return .parameter name .length quoted
    | .close, false => return .parameter name .value quoted
    | .trim atEnd longest, false =>
      return .parameter name (.trimmed atEnd longest (← inner.word (.operand false))) quoted
    | .instead how orEmpty, false =>
      return .parameter name (.instead how orEmpty (← inner.word (.operand quoted))) quoted
    | _, _ =>
      let _ ← inner.word (.operand quoted)
      return .parameter name .unknown quoted

/-- The script between backquotes. Its lines are counted from the first. -/
def backquotes (quoted : Bool) : Parse Segment := do
  let s ← get
  match backquoted? quoted s.rest with
  | none => failAtEnd "EOF in backquote substitution"
  | some (script, after) =>
    set { s with rest := script, line := 1, pushed := none, pending := [] }
    let body ← inner.list .enclosed
    let read ← get
    let passed := s.rest.take (s.rest.length - after.length)
    set { s with
      rest := after, line := s.line + passed.count '\n', documents := read.documents }
    return .output (body.getD (.sequence [])) quoted

def nextToken (place : Place) : Parse Token := do
  let (lines, after) := skipBlanks (← rest)
  pass (List.replicate lines '\n') (skipComment after)
  match ← rest with
  | [] => return .endOfFile
  | '\n' :: after =>
    pass ['\n'] after
    return .newline
  | cs =>
    match redirection? cs with
    | some (token, after) =>
      goTo after
      return token
    | none =>
      match operator? cs with
      | some (o, after) =>
        goTo after
        return .operator o
      | none => return .word (← inner.word place)

def readDocuments : Parse Unit := do
  for p in (← get).pending do
    let s ← get
    let (text, lines, after) := documentText p (s.rest.length + 1) s.rest
    let body : Word ←
      if p.literal then pure [.text text true]
      else do
        set { s with rest := text, pushed := none, pending := [] }
        inner.word .document
    modify fun read => { s with
      rest := after
      line := s.line + lines
      documents := read.documents.setIfInBounds p.number body }
  modify fun s => { s with pending := [] }

/-- The next token, which may have been given back. -/
def anyToken : Parse Token := do
  match (← get).pushed with
  | some found =>
    modify fun s => { s with pushed := none }
    return found
  | none => inner.nextToken .plain

def skipLines : Parse Unit := do
  let _ ← many do
    match ← inner.anyToken with
    | .newline =>
      inner.readDocuments
      return some ()
    | found =>
      push found
      return none

/-- The next token, in which a keyword is nothing but a word. -/
def token : Parse Token := inner.anyToken

/-- The next token, in which keywords are told from other words. -/
def keyToken : Parse Token := do
  let found ← inner.anyToken
  match found with
  | .word w => return (((plainText? w).bind Keyword.ofText?).map Token.keyword).getD found
  | _ => return found

def expect (wanted : Token) (found : Token) : Parse Unit :=
  match wanted, found with
  | .operator a, .operator b => if a = b then return else unexpected found (some wanted)
  | .keyword a, .keyword b => if a = b then return else unexpected found (some wanted)
  | _, _ => unexpected found (some wanted)

/-! ### Words -/

/-- The next parts of a word; nothing at its end, which is passed over if it belongs to the part. -/
def segments (place : Place) : Parse (Option Word) := do
  match ← rest with
  | [] =>
    place.atEndOfFile
    return none
  | c :: after =>
    let text (chars : List Char) (quoted : Bool) : Option Word := some [.text chars quoted]
    if place.isEnd c then
      if place.takesEnd then pass [c] after
      return none
    if place.isOrdinary c then
      let chars := c :: after.takeWhile place.isOrdinary
      pass chars (after.dropWhile place.isOrdinary)
      return text chars place.isQuoted
    match c, after with
    | '\\', [] =>
      goTo []
      return text [c] true
    | '\\', d :: more =>
      pass [d] more
      return if d = '\n' then some []
        else text (if !place.isQuoted || place.escapes d then [d] else [c, d]) true
    | _, _ =>
    if c = '\'' && !place.isQuoted then
      let chars := after.takeWhile (· ≠ c)
      if chars.length = after.length then failAtEnd "Unterminated quoted string"
      pass chars (after.drop (chars.length + 1))
      return text chars true
    goTo after
    if c = '"' && !place.isQuoted then
      let quotation ← inner.word .quoted
      return some (if quotation.isEmpty then [.text [] true] else quotation)
    if c = '"' && place = .operand true then return some []
    if place = .mark then return text [c] false
    if c = '$' then return some [← inner.expansion place.isQuoted]
    if c = backquote then return some [← inner.backquotes place.isQuoted]
    return text [c] place.isQuoted

def wordFrom (place : Place) : Parse Word := do return (← many (inner.segments place)).flatten

def arithmetic : Parse Word :=
  unfold (fun depth => do
    match ← rest with
    | [] => fail "Missing '))'"
    | '\\' :: '\n' :: after =>
      pass ['\n'] after
      return ([], some depth)
    | '\\' :: d :: after =>
      pass [d] after
      let escaped := d = '\\' || d = '$' || d = backquote
      return ([.text (if escaped then [d] else ['\\', d]) true], some depth)
    | c :: after =>
      pass [c] after
      if c = '$' then return ([← inner.expansion true], some depth)
      if c = backquote then return ([← inner.backquotes true], some depth)
      if c = ')' && depth = 0 && after.head? = some ')' then
        goTo (after.drop 1)
        return ([], none)
      let deeper := if c = '(' then depth + 1 else if c = ')' then depth - 1 else depth
      return ([.text [c] true], some deeper)) 0

def expansionFrom (quoted : Bool) : Parse Segment := do
  match ← rest with
  | '(' :: '(' :: after =>
    goTo after
    return .arithmetic (← inner.arithmetic) quoted
  | '(' :: after =>
    goTo after
    let outer := (← get).pending
    modify fun s => { s with pending := [] }
    let body ← inner.list .enclosed
    expect (.operator .closeBracket) (← inner.token)
    modify fun s => { s with pending := outer ++ s.pending }
    return .output (body.getD (.sequence [])) quoted
  | '\x7b' :: after =>
    goTo after
    inner.braces quoted
  | c :: after =>
    if isNameStart c then
      goTo (after.dropWhile isNameChar)
      return .parameter (String.ofList (c :: after.takeWhile isNameChar)) .value quoted
    else if isSpecialParameter c then
      goTo after
      return .parameter (String.singleton c) .value quoted
    else return .text ['$'] quoted
  | [] => return .text ['$'] quoted

/-! ### Commands -/

def redirection (descriptor : Nat) (redirector : Redirector) : Parse Redirection := do
  let place := match redirector with
    | .document _ => Place.mark
    | _ => .plain
  match ← inner.nextToken place with
  | .word w =>
    match redirector with
    | .file mode => return .file descriptor mode w
    | .copy => return .copy descriptor w
    | .document dropTabs =>
      let (mark, literal) := unquotedMark w
      let number := (← get).documents.size
      modify fun s => { s with
        pending := s.pending ++ [⟨number, mark, dropTabs, literal⟩]
        documents := s.documents.push [] }
      return .document descriptor number
  | found => unexpected found none

def redirections : Parse (List Redirection) :=
  many do
    match ← inner.keyToken with
    | .redirection descriptor redirector => return some (← inner.redirection descriptor redirector)
    | found =>
      push found
      return none

abbrev SimplePart := Word ⊕ Redirection

def assignmentsAndWords : List Word → List (String × Word) × List Word
  | [] => ([], [])
  | w :: rest =>
    match assignment? w with
    | some a =>
      let (assignments, words) := assignmentsAndWords rest
      (a :: assignments, words)
    | none => ([], w :: rest)

def simple : Parse Command := do
  let line := (← get).line
  let parts : List SimplePart ← many do
    match ← inner.token with
    | .word w => return some (.inl w)
    | .redirection descriptor redirector =>
      return some (.inr (← inner.redirection descriptor redirector))
    | found =>
      push found
      return none
  let (assignments, words) := assignmentsAndWords (parts.filterMap Sum.getLeft?)
  let found ← inner.token
  match found, assignments, parts with
  | .operator .openBracket, [], [.inl w] =>
    expect (.operator .closeBracket) (← inner.token)
    match (plainText? w).filter fun name => isName name && !specialBuiltins.contains name with
    | some name => return .define name (← inner.command true true)
    | none => fail "Bad function name"
  | _, _, _ =>
    push found
    return .simple line assignments words (parts.filterMap Sum.getRight?)

def block : Parse Command := do return (← inner.list .block).getD (.sequence [])

/-- A condition and what depends on it; the conditions after it follow `elif`. -/
def branches : Parse Command := do
  let cases : List (Command × Command) ← unfold (fun () => do
    let condition ← inner.block
    expect (.keyword .thenWord) (← inner.keyToken)
    let consequence ← inner.block
    match ← inner.token with
    | .keyword .elifWord => return ([(condition, consequence)], some ())
    | found =>
      push found
      return ([(condition, consequence)], none)) ()
  let alternative ←
    match ← inner.token with
    | .keyword .elseWord => some <$> inner.block
    | found =>
      push found
      pure none
  expect (.keyword .fi) (← inner.token)
  return (cases.foldr (fun (condition, consequence) alternative =>
    some (.branch condition consequence alternative)) alternative).getD (.sequence [])

def loop (goesOnWhile : Bool) : Parse Command := do
  let condition ← inner.block
  expect (.keyword .doWord) (← inner.keyToken)
  let body ← inner.block
  expect (.keyword .done) (← inner.keyToken)
  return .loop goesOnWhile condition body

def forEach (line : Nat) : Parse Command := do
  let name ←
    match ← inner.token with
    | .word w =>
      match (plainText? w).filter isName with
      | some name => pure name
      | none => fail "Bad for loop variable"
    | _ => fail "Bad for loop variable"
  inner.skipLines
  let words ←
    match ← inner.keyToken with
    | .keyword .inWord => do
      let words ← many do
        match ← inner.token with
        | .word w => return some w
        | found =>
          push found
          return none
      match ← inner.token with
      | .newline => pure words
      | .operator .semicolon => pure words
      | found => unexpected found none
    | .operator .semicolon => pure [[.parameter "@" .value true]]
    | found => do
      push found
      pure [[.parameter "@" .value true]]
  inner.skipLines
  expect (.keyword .doWord) (← inner.keyToken)
  let body ← inner.block
  expect (.keyword .done) (← inner.keyToken)
  return .forEach line name words body

def patterns (first : Token) : Parse (List Word) :=
  unfold (fun found => do
    let pattern : Word := match found with
      | .word w => w
      | .keyword k => [.text k.text.toList false]
      | _ => []
    match ← inner.token with
    | .operator .pipe => return ([pattern], some (← inner.token))
    | found =>
      expect (.operator .closeBracket) found
      return ([pattern], none)) first

def choice (line : Nat) : Parse Command := do
  match ← inner.token with
  | .word subject =>
    inner.skipLines
    expect (.keyword .inWord) (← inner.keyToken)
    let arms ← unfold (fun () => do
      inner.skipLines
      let found ← inner.keyToken
      match found with
      | .keyword .esac => return ([], none)
      | _ =>
        let first ←
          match found with
          | .operator .openBracket => inner.token
          | _ => pure found
        let patterns ← inner.patterns first
        let body := (← inner.list .enclosed).getD (.sequence [])
        inner.skipLines
        match ← inner.keyToken with
        | .keyword .esac => return ([(patterns, body)], none)
        | found =>
          expect (.operator .endArm) found
          return ([(patterns, body)], some ())) ()
    return .choice line subject arms
  | found => unexpected found (some (.word []))

def compound (line : Nat) (found : Token) : Parse Command := do
  match found with
  | .keyword .ifWord => inner.branches
  | .keyword .whileWord => inner.loop true
  | .keyword .untilWord => inner.loop false
  | .keyword .forWord => inner.forEach line
  | .keyword .caseWord => inner.choice line
  | .keyword .openBrace =>
    let body ← inner.block
    expect (.keyword .closeBrace) (← inner.keyToken)
    return body
  | .operator .openBracket =>
    let body ← inner.block
    expect (.operator .closeBracket) (← inner.token)
    return .subshell line body
  | _ => unexpected found none

def commandFrom (skipLines keywords : Bool) : Parse Command := do
  let line := (← get).line
  if skipLines then inner.skipLines
  let found ← if keywords then inner.keyToken else inner.token
  match found with
  | .word _ =>
    push found
    inner.simple
  | .redirection .. =>
    push found
    inner.simple
  | _ =>
    let body ← inner.compound line found
    let redirections ← inner.redirections
    return if redirections.isEmpty then body else .redirected line body redirections

def pipeline (skipLines : Bool) : Parse Command := do
  if skipLines then inner.skipLines
  let found ← if skipLines then inner.keyToken else inner.token
  let negated := match found with
    | .keyword .negation => true
    | _ => false
  if !negated then push found
  let first ← inner.command false negated
  let more ← many do
    match ← inner.token with
    | .operator .pipe => return some (← inner.command true true)
    | found =>
      push found
      return none
  let joined := if more.isEmpty then first else .pipeline (first :: more)
  return if negated then .negation joined else joined

def conditional : Parse Command := do
  let first ← inner.pipeline false
  let more : List (Command → Command) ← many do
    match ← inner.token with
    | .operator .and =>
      let second ← inner.pipeline true
      return some (.both · second)
    | .operator .or =>
      let second ← inner.pipeline true
      return some (.either · second)
    | found =>
      push found
      return none
  return more.foldl (fun first join => join first) first

def listed (extent : Extent) (mayEnd : Bool) : Parse (List Command × Option Bool) := do
  if extent ≠ .line then inner.skipLines
  let found ← inner.keyToken
  match found with
  | .newline =>
    inner.readDocuments
    return ([], none)
  | .endOfFile =>
    inner.readDocuments
    push found
    return ([], none)
  | _ =>
  push found
  if mayEnd && found.endsList then return ([], none)
  let first ← inner.conditional
  let separator ← inner.token
  let goOn := some (extent ≠ .line : Bool)
  match separator with
  | .endOfFile =>
    inner.readDocuments
    push separator
    return ([first], none)
  | .operator .semicolon => return ([first], goOn)
  | .operator .background => return ([.background first], goOn)
  | .newline =>
    push separator
    return ([first], goOn)
  | _ =>
    if extent = .line then unexpected separator none
    push separator
    return ([first], none)

def listFrom (extent : Extent) : Parse (Option Command) := do
  if extent = .line then
    match ← inner.token with
    | .endOfFile => return none
    | found => push found
  let commands ← unfold (inner.listed extent) (extent = .enclosed : Bool)
  return some (commandsOf commands)

end Reader

def reader : Nat → Reader
  | 0 =>
    { word := fun _ => fail "too deep"
      expansion := fun _ => fail "too deep"
      list := fun _ => fail "too deep"
      command := fun _ _ => fail "too deep" }
  | depth + 1 =>
    let inner := reader depth
    { word := inner.wordFrom
      expansion := inner.expansionFrom
      list := inner.listFrom
      command := inner.commandFrom }

def nestingLimit : Nat := 1000

def nextCommand : Parse (Option Command) := (reader nestingLimit).list .line

end IngressPlane.Shell
