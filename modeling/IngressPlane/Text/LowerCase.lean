import IngressPlane.Text.CaseTable

/-!
Lower case over all of Unicode. Two letters need more than a one-to-one map: a capital I with dot
becomes two characters, and a capital sigma at the end of a word becomes the final sigma.
-/
namespace IngressPlane.Text

def CaseRange.covers (r : CaseRange) (n : Nat) : Bool :=
  r.first ≤ n && n ≤ r.last && (n - r.first) % r.step == 0

def lowerChar (c : Char) : Char :=
  match lowerRanges.find? (·.covers c.toNat) with
  | some r => Char.ofNat (c.toNat + r.shift).toNat
  | none => c

def inRanges (ranges : List (Nat × Nat)) (c : Char) : Bool :=
  ranges.any fun r => r.1 ≤ c.toNat && c.toNat ≤ r.2

/-- Whether, past the characters that case ignores, a letter with case comes next. -/
def meetsCased (cs : List Char) : Bool :=
  match cs.dropWhile (inRanges caseIgnorableRanges) with
  | [] => false
  | c :: _ => inRanges casedRanges c

/-- `before` holds the characters already passed, the nearest first. -/
def lowerFrom (before : List Char) : List Char → List Char
  | [] => []
  | c :: rest =>
    let here :=
      if c = '\u0130' then ['i', '\u0307']
      else if c = '\u03A3' then [if meetsCased before && !meetsCased rest then '\u03C2' else '\u03C3']
      else [lowerChar c]
    here ++ lowerFrom (c :: before) rest

def lower (s : String) : String := String.ofList (lowerFrom [] s.toList)

end IngressPlane.Text
