/-!
Regular expressions with groups and back-references. Matching follows all ways through a text at
once: from the places where a match may stand to those where it may stand after an expression.
-/
namespace IngressPlane.Shell

/-- The characters in, or outside of, some ranges. Where case does not count, a range has the
characters of which it has the other case. -/
structure CharClass where
  negated : Bool := false
  ranges : List (Char × Char)
  anyCase : Bool := false
  deriving DecidableEq

def CharClass.has (k : CharClass) (c : Char) : Bool :=
  let inRanges (c : Char) : Bool := k.ranges.any fun r => r.1 ≤ c && c ≤ r.2
  k.negated != (inRanges c || (k.anyCase && (inRanges c.toLower || inRanges c.toUpper)))

def CharClass.any : CharClass := ⟨true, [], false⟩

def CharClass.only (c : Char) : CharClass := ⟨false, [(c, c)], false⟩

inductive Assertion
  | start
  | finish
  | wordStart
  | wordEnd
  | wordEdge
  | noWordEdge
  /-- No character of a word stands in front. -/
  | clearBefore
  /-- No character of a word stands behind. -/
  | clearAfter
  /-- What no place is. -/
  | nowhere
  deriving DecidableEq

inductive Regex
  | empty
  | one (chars : CharClass)
  | look (assertion : Assertion)
  | group (number : Nat) (body : Regex)
  /-- What the group of that number has matched. -/
  | back (number : Nat)
  | concat (first second : Regex)
  | either (left right : Regex)
  /-- So many times, without a bound when `high` is unset. -/
  | repeated (body : Regex) (low : Nat) (high : Option Nat)
  deriving DecidableEq, Inhabited

def isWordChar (c : Char) : Bool := c.isAlphanum || c = '_'

def Assertion.holds (text : Array Char) (place : Nat) (assertion : Assertion) : Bool :=
  let before := place ≠ 0 && (text[place - 1]?.any isWordChar)
  let after := text[place]?.any isWordChar
  match assertion with
  | .start => place = 0
  | .finish => place = text.size
  | .wordStart => !before && after
  | .wordEnd => before && !after
  | .wordEdge => before != after
  | .noWordEdge => before == after
  | .clearBefore => !before
  | .clearAfter => !after
  | .nowhere => false

/-- A place in a text, and the parts of it that groups have matched. -/
structure Cursor where
  place : Nat
  groups : List (Nat × Nat × Nat) := []
  deriving DecidableEq

/-- Repeats a step until there are no new places. -/
def closure (step : List Cursor → List Cursor) : Nat → (found fresh : List Cursor) → List Cursor
  | 0, found, _ => found
  | n + 1, found, fresh =>
    let fresh := (step fresh).filter fun c => !found.contains c
    if fresh.isEmpty then found else closure step n (found ++ fresh) fresh

namespace Regex

/-- The places after a match of the expression from one of the given places. -/
def advance (text : Array Char) : Regex → List Cursor → List Cursor
  | .empty, cs => cs
  | .one chars, cs =>
    (cs.filter fun c => text[c.place]?.any chars.has).map fun c => { c with place := c.place + 1 }
  | .look assertion, cs => cs.filter fun c => assertion.holds text c.place
  | .group number body, cs =>
    cs.flatMap fun c =>
      (body.advance text [c]).map fun after =>
        { after with groups := (number, c.place, after.place) :: after.groups.filter (·.1 ≠ number) }
  | .back number, cs =>
    cs.filterMap fun c => do
      let (start, finish) ← c.groups.lookup number
      let matched := text.extract start finish
      if text.extract c.place (c.place + matched.size) = matched then
        some { c with place := c.place + matched.size }
      else none
  | .concat a b, cs => b.advance text (a.advance text cs)
  | .either a b, cs => (a.advance text cs ++ b.advance text cs).eraseDups
  | .repeated body low high, cs =>
    let least := Nat.repeat (body.advance text) low cs
    closure (body.advance text) ((high.map (· - low)).getD (text.size + 1)) least least

def join : Regex → Regex → Regex
  | .empty, b => b
  | a, .empty => a
  | a, b => .concat a b

def sequence (rs : List Regex) : Regex := rs.foldr join .empty

def groupCount : Regex → Nat
  | .group number body => max number body.groupCount
  | .concat a b => max a.groupCount b.groupCount
  | .either a b => max a.groupCount b.groupCount
  | .repeated body _ _ => body.groupCount
  | _ => 0

def ends (r : Regex) (text : Array Char) (start : Nat) : List Cursor := r.advance text [⟨start, []⟩]

def matchesWhole (r : Regex) (text : Array Char) : Bool :=
  (r.ends text 0).any (·.place = text.size)

def occursIn (r : Regex) (text : Array Char) : Bool :=
  !(r.advance text ((List.range (text.size + 1)).map fun start => ⟨start, []⟩)).isEmpty

def find? (r : Regex) (text : Array Char) (start : Nat) : Option (Nat × Cursor) :=
  (List.range' start (text.size + 1 - start)).findSome? fun start =>
    match r.ends text start with
    | [] => none
    | c :: cs => some (start, cs.foldl (fun best c => if best.place < c.place then c else best) c)

end Regex
end IngressPlane.Shell
