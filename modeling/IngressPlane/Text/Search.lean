import IngressPlane.Text.Blank

/-!
Finding and cutting text: prefixes, suffixes, occurrences, and the fields between separators.
-/
namespace IngressPlane.Text

def hasPrefix (start s : String) : Bool := start.toList.isPrefixOf s.toList

def hasSuffix (ending s : String) : Bool := ending.toList.isSuffixOf s.toList

def occursIn (word : List Char) : List Char → Bool
  | [] => word.isEmpty
  | c :: rest => word.isPrefixOf (c :: rest) || occursIn word rest

def contains (s word : String) : Bool := occursIn word.toList s.toList

/-- The pieces between the separators: one more than there are separators. -/
def pieces (sep : Char) : List Char → List (List Char)
  | [] => [[]]
  | c :: rest =>
    if c = sep then [] :: pieces sep rest
    else match pieces sep rest with
      | [] => [[c]]
      | piece :: more => (c :: piece) :: more

def split (sep : Char) (s : String) : List String := (pieces sep s.toList).map String.ofList

def splitOnce? (sep : Char) (s : String) : Option (String × String) :=
  match s.toList.dropWhile (· ≠ sep) with
  | [] => none
  | _ :: after => some (String.ofList (s.toList.takeWhile (· ≠ sep)), String.ofList after)

/-- The fields of a comma-separated list, trimmed, without the empty ones. -/
def listItems (s : String) : List String :=
  ((split ',' s).map trim).filter (· ≠ "")

def join (sep : String) : List String → String
  | [] => ""
  | [s] => s
  | s :: rest => s ++ sep ++ join sep rest

end IngressPlane.Text
