import IngressPlane.Shell.Arithmetic
import IngressPlane.Shell.Glob
import IngressPlane.Shell.Machine

/-!
Expanding words: parameters, the output of commands and arithmetic take the place of their
expansions, and what is not quoted is split into fields.
-/
namespace IngressPlane.Shell

/-- An expanded part of a word: text, of which loose text is split, or a break between fields. -/
inductive Piece
  | glyphs (chars : List Glyph)
  | loose (chars : List Char)
  | cut

abbrev Substitution := Command → Machine → String × Machine

namespace Piece

def ofValue (quoted : Bool) (value : String) : Piece :=
  if quoted then .glyphs (quotedGlyphs value.toList) else .loose value.toList

/-- The same part, where the word that it is a part of is not quoted. -/
def loosened : Piece → Piece
  | .glyphs chars =>
    if !chars.isEmpty && chars.all (!·.quoted) then .loose (chars.map (·.char)) else .glyphs chars
  | piece => piece

def allGlyphs : Piece → List Glyph
  | .glyphs chars => chars
  | .loose chars => plainGlyphs chars
  | .cut => [⟨' ', true⟩]

def text (pieces : List Piece) : String :=
  String.ofList ((pieces.flatMap allGlyphs).map (·.char))

end Piece

def allArguments (m : Machine) (name : String) (quoted : Bool) : List Piece :=
  if name = "*" && quoted then
    let separator := String.ofList (m.separators.take 1)
    [.ofValue true (Text.join separator m.arguments)]
  else (m.arguments.map (Piece.ofValue quoted)).intersperse .cut

/-- The value of a parameter. One that is unset is empty unless it is refused. -/
def parameterPieces (m : Machine) (name : String) (quoted : Bool) : List Piece × Machine :=
  if name = "@" || name = "*" then (allArguments m name quoted, m)
  else
    match m.parameter? name with
    | some value => ([.ofValue quoted value], m)
    | none =>
      if m.refusesUnset then ([], m.abort (name ++ ": parameter not set"))
      else ([.ofValue quoted ""], m)

def parameterLength (m : Machine) (name : String) : Nat :=
  ((m.parameter? name).getD "").length

def arithmeticText (m : Machine) (expression : String) : String × Machine :=
  match (do (← Arithmetic.read expression).value m.valueOf? [] :
      Except Arithmetic.Error (Int64 × Arithmetic.Assigned)) with
  | .ok (n, assigned) =>
    (Text.decimal n.toInt,
      assigned.reverse.foldl (fun m (name, n) => m.assign name (Text.decimal n.toInt)) m)
  | .error e => ("", m.abort (e.message expression))

def unsetComplaint (orEmpty : Bool) (word : String) : String :=
  if word = "" then "parameter not set" ++ if orEmpty then " or null" else "" else word

mutual

def Segment.expand (substitute : Substitution) (m : Machine) (segment : Segment) :
    List Piece × Machine :=
  if !m.isRunning then ([], m)
  else
    match segment with
    | .text chars quoted => ([.glyphs (if quoted then quotedGlyphs chars else plainGlyphs chars)], m)
    | .parameter name use quoted => use.expand substitute m name quoted
    | .output body quoted =>
      let (text, m) := substitute body m
      ([.ofValue quoted (dropTrailingNewlines text)], m)
    | .arithmetic expression quoted =>
      let (pieces, m) := expandSegments substitute m expression
      if !m.isRunning then ([], m)
      else
        let (text, m) := arithmeticText m (Piece.text pieces)
        ([.ofValue quoted text], m)

def Use.expand (substitute : Substitution) (m : Machine) (name : String) (quoted : Bool) (use : Use) :
    List Piece × Machine :=
  match use with
  | .value => parameterPieces m name quoted
  | .length =>
    let (_, m) := parameterPieces m name quoted
    ([.ofValue quoted (parameterLength m name).repr], m)
  | .trimmed atEnd longest pattern =>
    let (_, m) := parameterPieces m name quoted
    let (pieces, m) := expandSegments substitute m pattern
    let pattern := globRegex (pieces.flatMap Piece.allGlyphs)
    let value := (m.parameter? name).getD ""
    ([.ofValue quoted (String.ofList (trimmed atEnd longest pattern value.toList))], m)
  | .instead how orEmpty word =>
    let isMissing := match m.parameter? name with
      | none => true
      | some value => orEmpty && value = ""
    let wordPieces : List Piece × Machine :=
      let (pieces, m) := expandSegments substitute m word
      (if quoted then .glyphs [] :: pieces else pieces.map Piece.loosened, m)
    match how with
    | .word => if isMissing then wordPieces else parameterPieces m name quoted
    | .nothing => if isMissing then ([.ofValue quoted ""], m) else wordPieces
    | .assigned =>
      if !isMissing then parameterPieces m name quoted
      else
        let (pieces, m) := expandSegments substitute m word
        let value := Piece.text pieces
        if !m.isRunning then ([], m)
        else if !isName name then ([], m.abort (name ++ ": bad variable name"))
        else ([.ofValue quoted value], m.assign name value)
    | .complaint =>
      if !isMissing then parameterPieces m name quoted
      else
        let (pieces, m) := expandSegments substitute m word
        if !m.isRunning then ([], m)
        else ([], m.abort (name ++ ": " ++ unsetComplaint orEmpty (Piece.text pieces)))
  | .unknown => ([], m.abort "Bad substitution")

def expandSegments (substitute : Substitution) (m : Machine) (segments : List Segment) :
    List Piece × Machine :=
  match segments with
  | [] => ([], m)
  | segment :: rest =>
    let (pieces, m) := segment.expand substitute m
    let (more, m) := expandSegments substitute m rest
    (pieces ++ more, m)

end

/-! ## Fields -/

structure Fields where
  done : List (List Glyph) := []
  current : Option (List Glyph) := none
  /-- Set after a blank that has ended a field, with which another separator still belongs. -/
  blankEnd : Bool := false

namespace Fields

def close (f : Fields) : Fields :=
  match f.current with
  | some glyphs => { done := glyphs :: f.done }
  | none => { f with blankEnd := false }

def add (f : Fields) (glyphs : List Glyph) : Fields :=
  { f with current := some (f.current.getD [] ++ glyphs), blankEnd := false }

/-- A separator. Blanks in a row are one separator, together with one that is no blank. -/
def separate (f : Fields) (c : Char) : Fields :=
  if isSpace c then
    match f.current with
    | some _ => { f.close with blankEnd := true }
    | none => f
  else
    match f.current with
    | some _ => f.close
    | none => if f.blankEnd then { f with blankEnd := false } else { f with done := [] :: f.done }

def piece (separators : List Char) (f : Fields) : Piece → Fields
  | .glyphs glyphs => f.add glyphs
  | .cut => f.close
  | .loose chars =>
    chars.foldl (fun f c => if separators.contains c then f.separate c else f.add [⟨c, false⟩]) f

end Fields

def fieldsOf (separators : List Char) (pieces : List Piece) : List (List Glyph) :=
  (pieces.foldl (Fields.piece separators) {}).close.done.reverse

def pathParts (glyphs : List Glyph) : List (List Glyph) :=
  glyphs.foldr (fun g parts =>
    match parts with
    | [] => [[g]]
    | part :: rest => if g.char = '/' then [] :: part :: rest else (g :: part) :: rest) [[]]

def isWild (g : Glyph) : Bool := !g.quoted && ['*', '?', '['].contains g.char

/-- The paths that a field stands for: those that it is a pattern for, or itself if there are none. -/
def pathsOf (m : Machine) (glyphs : List Glyph) : List String :=
  let itself := String.ofList (glyphs.map (·.char))
  if m.settings.contains 'f' || !glyphs.any isWild then [itself]
  else
    let isAbsolute := (glyphs.head?.map (·.char)) = some '/'
    let base := if m.directory = "/" then "/" else m.directory ++ "/"
    let parts := (pathParts (if isAbsolute then glyphs else quotedGlyphs base.toList ++ glyphs)).map globRegex
    let fits (path : String) : Bool :=
      let names := Text.pieces '/' path.toList
      names.length = parts.length
        && (names.zip parts).all fun (name, r) => r.matchesWhole name.toArray
    let found := ((m.files.entries.map (·.1) ++ systemDirectories).filter fits).mergeSort (· ≤ ·)
    if found.isEmpty then [itself]
    else if isAbsolute then found
    else found.map fun path => (path.drop base.length).toString

def homeOf? (m : Machine) (user : String) : Option String :=
  if user = "" then m.valueOf? "HOME" else if user = "root" then some "/root" else none

def homeText (m : Machine) (isLast : Bool) (chars : List Char) : List Segment :=
  match chars with
  | '~' :: rest =>
    let user := rest.takeWhile (· ≠ '/')
    let after := rest.drop user.length
    match homeOf? m (String.ofList user) with
    | some home =>
      if after.isEmpty && !isLast then [.text chars false]
      else [.text home.toList (home ≠ ""), .text after false]
    | none => [.text chars false]
  | _ => [.text chars false]

def Word.atHome (m : Machine) : Word → Word
  | .text chars false :: rest => homeText m rest.isEmpty chars ++ rest
  | w => w

/-- Puts the home directory in place of tildes at the start of a value, and after its colons. -/
def Word.valueAtHome (m : Machine) : Word → Word
  | [.text chars false] =>
    ((Text.pieces ':' chars).map (homeText m true)).intersperse [.text [':'] false] |>.flatten
  | w => Word.atHome m w

def expandWord (substitute : Substitution) (m : Machine) (w : Word) : String × Machine :=
  let (pieces, m) := expandSegments substitute m (Word.atHome m w)
  (Piece.text pieces, m)

def expandValue (substitute : Substitution) (m : Machine) (w : Word) : String × Machine :=
  let (pieces, m) := expandSegments substitute m (Word.valueAtHome m w)
  (Piece.text pieces, m)

def expandPattern (substitute : Substitution) (m : Machine) (w : Word) : Regex × Machine :=
  let (pieces, m) := expandSegments substitute m w
  (globRegex (pieces.flatMap Piece.allGlyphs), m)

def expandWords (substitute : Substitution) (m : Machine) : List Word → List String × Machine
  | [] => ([], m)
  | w :: rest =>
    let (pieces, m) := expandSegments substitute m (Word.atHome m w)
    let (more, m) := expandWords substitute m rest
    ((fieldsOf m.separators pieces).flatMap (pathsOf m) ++ more, m)

end IngressPlane.Shell
