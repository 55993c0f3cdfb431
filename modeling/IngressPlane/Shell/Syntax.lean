/-!
Shell scripts: words with their quoting and expansions, and commands. A command carries the line that
it begins on, which its complaints name.
-/
namespace IngressPlane.Shell

/-- What an expansion puts in place of a parameter that is unset. -/
inductive Instead
  /-- The word. -/
  | word
  /-- The word, which the parameter is set to. -/
  | assigned
  /-- Nothing; the word takes the place of a parameter that is set. -/
  | nothing
  /-- The word is a complaint. -/
  | complaint
  deriving DecidableEq

inductive FileMode
  | input
  | output (forced : Bool)
  | append
  | both
  deriving DecidableEq

mutual

/-- A part of a word. An expansion that is not quoted is split into fields. -/
inductive Segment
  | text (chars : List Char) (quoted : Bool)
  | parameter (name : String) (use : Use) (quoted : Bool)
  /-- What a command writes. -/
  | output (body : Command) (quoted : Bool)
  | arithmetic (expression : List Segment) (quoted : Bool)

inductive Use
  | value
  | length
  /-- With `orEmpty`, an empty parameter is as good as unset. -/
  | instead (how : Instead) (orEmpty : Bool) (word : List Segment)
  /-- The value without the shortest or longest match at its start or end. -/
  | trimmed (atEnd longest : Bool) (pattern : List Segment)
  | unknown

inductive Redirection
  | file (descriptor : Nat) (mode : FileMode) (name : List Segment)
  /-- Makes a descriptor the copy of another one, or closes it. -/
  | copy (descriptor : Nat) (source : List Segment)
  /-- Input from the document of that number in the script. -/
  | document (descriptor : Nat) (number : Nat)

inductive Command
  | simple (line : Nat) (assignments : List (String × List Segment)) (words : List (List Segment))
      (redirections : List Redirection)
  | redirected (line : Nat) (body : Command) (redirections : List Redirection)
  | pipeline (stages : List Command)
  | negation (body : Command)
  | both (first second : Command)
  | either (first second : Command)
  | sequence (commands : List Command)
  | background (body : Command)
  | subshell (line : Nat) (body : Command)
  | branch (condition consequence : Command) (alternative : Option Command)
  | loop (goesOnWhile : Bool) (condition body : Command)
  | forEach (line : Nat) (name : String) (words : List (List Segment)) (body : Command)
  | choice (line : Nat) (subject : List Segment) (arms : List (List (List Segment) × Command))
  | define (name : String) (body : Command)

end

abbrev Word := List Segment

def plainText? : Word → Option String
  | [.text chars false] => some (String.ofList chars)
  | _ => none

inductive Keyword
  | negation | caseWord | doWord | done | elifWord | elseWord | esac | fi | forWord | ifWord | inWord
  | thenWord | untilWord | whileWord | openBrace | closeBrace
  deriving DecidableEq

def Keyword.text : Keyword → String
  | .negation => "!"
  | .caseWord => "case"
  | .doWord => "do"
  | .done => "done"
  | .elifWord => "elif"
  | .elseWord => "else"
  | .esac => "esac"
  | .fi => "fi"
  | .forWord => "for"
  | .ifWord => "if"
  | .inWord => "in"
  | .thenWord => "then"
  | .untilWord => "until"
  | .whileWord => "while"
  | .openBrace => "\x7b"
  | .closeBrace => "\x7d"

def Keyword.all : List Keyword := [
  .negation, .caseWord, .doWord, .done, .elifWord, .elseWord, .esac, .fi, .forWord, .ifWord, .inWord,
  .thenWord, .untilWord, .whileWord, .openBrace, .closeBrace]

def Keyword.ofText? (s : String) : Option Keyword := Keyword.all.find? (·.text = s)

inductive Operator
  | semicolon | background | and | or | pipe | openBracket | closeBracket | endArm
  deriving DecidableEq

def Operator.text : Operator → String
  | .semicolon => ";"
  | .background => "&"
  | .and => "&&"
  | .or => "||"
  | .pipe => "|"
  | .openBracket => "("
  | .closeBracket => ")"
  | .endArm => ";;"

inductive Redirector
  | file (mode : FileMode)
  | copy
  /-- A document, of which the tabs that lines begin with may be dropped. -/
  | document (dropTabs : Bool)
  deriving DecidableEq

inductive Token
  | endOfFile
  | newline
  | operator (o : Operator)
  | redirection (descriptor : Nat) (redirector : Redirector)
  | word (w : Word)
  | keyword (k : Keyword)

def Token.name : Token → String
  | .endOfFile => "end of file"
  | .newline => "newline"
  | .operator o => "\"" ++ o.text ++ "\""
  | .redirection .. => "redirection"
  | .word _ => "word"
  | .keyword k => "\"" ++ k.text ++ "\""

def Token.endsList : Token → Bool
  | .endOfFile => true
  | .operator o => o = .closeBracket || o = .endArm
  | .keyword k =>
    [.doWord, .done, .elifWord, .elseWord, .esac, .fi, .thenWord, .closeBrace].contains k
  | _ => false

end IngressPlane.Shell
