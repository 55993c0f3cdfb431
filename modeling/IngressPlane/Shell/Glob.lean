import IngressPlane.Shell.Pattern

/-!
Shell patterns, in which `*` stands for any text, `?` for one character and brackets for one of
several.
-/
namespace IngressPlane.Shell

/-- A character of an expanded word; in quotes it stands for itself. -/
structure Glyph where
  char : Char
  quoted : Bool

def quotedGlyphs (cs : List Char) : List Glyph := cs.map (⟨·, true⟩)

def plainGlyphs (cs : List Char) : List Glyph := cs.map (⟨·, false⟩)

def bracketGlyphs? (rest : List Glyph) : Option (CharClass × Nat) :=
  let cs := rest.map (·.char)
  let cs := match cs with
    | '!' :: more => '^' :: more
    | cs => cs
  match bracket? cs with
  | .ok (chars, after) => some (chars, rest.length - after.length)
  | .error _ => none

def globItems : Nat → List Glyph → List Regex
  | 0, _ => []
  | _, [] => []
  | fuel + 1, g :: rest =>
    if g.quoted then .one (.only g.char) :: globItems fuel rest
    else if g.char = '*' then .repeated (.one .any) 0 none :: globItems fuel rest
    else if g.char = '?' then .one .any :: globItems fuel rest
    else if g.char = '[' then
      match bracketGlyphs? rest with
      | some (chars, n) => .one chars :: globItems fuel (rest.drop n)
      | none => .one (.only '[') :: globItems fuel rest
    else .one (.only g.char) :: globItems fuel rest

def globRegex (glyphs : List Glyph) : Regex := .sequence (globItems glyphs.length glyphs)

/-- A value without the shortest or the longest match of a pattern at its start or its end. -/
def trimmed (atEnd longest : Bool) (pattern : Regex) (value : List Char) : List Char :=
  let text := value.toArray
  if atEnd then
    let starts := (List.range (text.size + 1)).filter fun start =>
      (pattern.ends text start).any (·.place = text.size)
    match if longest then starts.head? else starts.getLast? with
    | some start => value.take start
    | none => value
  else
    let ends := (pattern.ends text 0).map (·.place)
    match if longest then ends.max? else ends.min? with
    | some n => value.drop n
    | none => value

end IngressPlane.Shell
