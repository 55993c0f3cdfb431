import IngressPlane.Shell.Pattern

/-!
The notation of Perl for regular expressions, as far as it can be put in the extended notation.
-/
namespace IngressPlane.Shell

def perlMessage : PatternError → String
  | .unmatchedOpening => "missing closing parenthesis"
  | .unmatchedClosing => "unmatched closing parenthesis"
  | .unmatchedBracket | .emptyBracket => "missing terminating ] for character class"
  | .unmatchedCount | .badCount => "numbers out of order in \x7b\x7d quantifier"
  | .badClass | .bareClass => "unknown POSIX class name"
  | .badCollation => "POSIX collating elements are not supported"
  | .badRange => "range out of order in character class"
  | .badReference => "reference to non-existent subpattern"
  | .trailingBackslash => "\\ at end of pattern"
  | .tooBig => "number too big in \x7b\x7d quantifier"

/-- The bracket expressions for sets of characters that have a letter, and places that have one. -/
def perlLetters : List (Char × String) := [
  ('d', "[0-9]"), ('D', "[^0-9]"), ('h', "[ \t]"), ('H', "[^ \t]"), ('n', "\n"), ('r', "\r"),
  ('t', "\t"), ('A', "^"), ('z', "$"), ('Z', "$")]

def perlBracketLetters : List (Char × String) := [
  ('d', "0-9"), ('w', "[:alnum:]_"), ('s', "[:space:]"), ('h', " \t"), ('n', "\n"), ('r', "\r"),
  ('t', "\t")]

/-- Where a reader of the notation is: outside of brackets, at the start of a bracket expression, in
it, or in the name of a class there. -/
inductive PerlPlace
  | outside | bracketStart | bracket | className
  deriving DecidableEq

/-- The pattern in the extended notation. Repetitions that take as little as they can match at the
same places as others. -/
def extendedText : Nat → PerlPlace → List Char → List Char
  | 0, _, _ => []
  | _, _, [] => []
  | fuel + 1, .outside, '\\' :: c :: rest =>
    match perlLetters.lookup c with
    | some text => text.toList ++ extendedText fuel .outside rest
    | none =>
      (if ['<', '>', '\'', Char.ofNat 96].contains c then [c] else ['\\', c])
        ++ extendedText fuel .outside rest
  | fuel + 1, .outside, '(' :: '?' :: ':' :: rest => '(' :: extendedText fuel .outside rest
  | fuel + 1, .outside, '[' :: '^' :: rest => '[' :: '^' :: extendedText fuel .bracketStart rest
  | fuel + 1, .outside, '[' :: rest => '[' :: extendedText fuel .bracketStart rest
  | fuel + 1, .outside, c :: sign :: rest =>
    let isLazy := ['*', '+', '?', '\x7d'].contains c && (sign = '?' || sign = '+')
    c :: extendedText fuel .outside (if isLazy then rest else sign :: rest)
  | fuel + 1, .bracketStart, ']' :: rest => ']' :: extendedText fuel .bracket rest
  | fuel + 1, .bracket, ']' :: rest => ']' :: extendedText fuel .outside rest
  | fuel + 1, .className, ':' :: ']' :: rest => ':' :: ']' :: extendedText fuel .bracket rest
  | fuel + 1, .className, c :: rest => c :: extendedText fuel .className rest
  | fuel + 1, _, '[' :: ':' :: rest => '[' :: ':' :: extendedText fuel .className rest
  | fuel + 1, _, '\\' :: c :: rest =>
    match perlBracketLetters.lookup c with
    | some text => text.toList ++ extendedText fuel .bracket rest
    | none =>
      (if c.isAlphanum then [c] else ['[', '.', c, '.', ']']) ++ extendedText fuel .bracket rest
  | fuel + 1, .outside, c :: rest => c :: extendedText fuel .outside rest
  | fuel + 1, _, c :: rest => c :: extendedText fuel .bracket rest

/-- Whether a group is closed that has not been opened. -/
def closesTooMuch (text : List Char) : Bool :=
  let rec go : Nat → Nat → List Char → Bool
    | 0, _, _ => false
    | _, _, [] => false
    | fuel + 1, depth, '\\' :: _ :: rest => go fuel depth rest
    | fuel + 1, depth, '(' :: rest => go fuel (depth + 1) rest
    | fuel + 1, depth, ')' :: rest => depth = 0 || go fuel (depth - 1) rest
    | fuel + 1, depth, '[' :: rest => go fuel depth ((rest.drop 1).dropWhile (· ≠ ']'))
    | fuel + 1, depth, _ :: rest => go fuel depth rest
  go (text.length + 1) 0 text

def perlPattern? (pattern : String) : Except String Regex :=
  let text := extendedText (pattern.length + 1) .outside pattern.toList
  if closesTooMuch text then .error (perlMessage .unmatchedClosing)
  else
    match pattern? .extended (String.ofList text) with
    | .error e => .error (perlMessage e)
    | .ok (r, []) => .ok r
    | .ok _ => .error "quantifier does not follow a repeatable item"

end IngressPlane.Shell
