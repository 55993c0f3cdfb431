import IngressPlane.Json.Basic
import IngressPlane.Text.Decimal

/-!
Writing JSON: `compact` without any blanks, `pretty` with one item a line and two blanks for each
level. Only the quote, the backslash and the control characters below the space are escaped.
-/
namespace IngressPlane.Json

def lowHex (n : Nat) : List Char := [Nat.digitChar (n / 16), Nat.digitChar (n % 16)]

def escaped (c : Char) : List Char :=
  if c = '"' then ['\\', '"']
  else if c = '\\' then ['\\', '\\']
  else if c = '\x08' then ['\\', 'b']
  else if c = '\t' then ['\\', 't']
  else if c = '\n' then ['\\', 'n']
  else if c = '\x0c' then ['\\', 'f']
  else if c = '\r' then ['\\', 'r']
  else if c.toNat < 0x20 then ['\\', 'u', '0', '0'] ++ lowHex c.toNat
  else [c]

def quote (s : String) : List Char := '"' :: s.toList.flatMap escaped ++ ['"']

def atom : Json → List Char
  | .null => ['n', 'u', 'l', 'l']
  | .bool true => ['t', 'r', 'u', 'e']
  | .bool false => ['f', 'a', 'l', 's', 'e']
  | .integer n => (Text.decimal n).toList
  | .real mantissa exponent => (Text.decimal mantissa).toList ++ 'e' :: (Text.decimal exponent).toList
  | .string s => quote s
  | .array _ => ['[', ']']
  | .object _ => ['\x7b', '\x7d']

def enclose (left sep right : List Char) (items : List (List Char)) : List Char :=
  left ++ (items.intersperse sep).flatten ++ right

def compactChars : Json → List Char
  | .array items => enclose ['['] [','] [']'] (items.attach.map fun ⟨item, _⟩ => compactChars item)
  | .object members =>
    enclose ['\x7b'] [','] ['\x7d'] (members.attach.map fun ⟨(name, value), _⟩ =>
      quote name ++ ':' :: compactChars value)
  | value => atom value
termination_by value => sizeOf value
decreasing_by
  · rename_i h; have := List.sizeOf_lt_of_mem h; simp; omega
  · rename_i h; have := List.sizeOf_lt_of_mem h; simp at this ⊢; omega

def newline (level : Nat) : List Char := '\n' :: List.replicate (2 * level) ' '

def prettyChars (level : Nat) : Json → List Char
  | .array items =>
    if items.isEmpty then ['[', ']']
    else enclose ('[' :: newline (level + 1)) (',' :: newline (level + 1)) (newline level ++ [']'])
      (items.attach.map fun ⟨item, _⟩ => prettyChars (level + 1) item)
  | .object members =>
    if members.isEmpty then ['\x7b', '\x7d']
    else
      enclose ('\x7b' :: newline (level + 1)) (',' :: newline (level + 1))
        (newline level ++ ['\x7d'])
        (members.attach.map fun ⟨(name, value), _⟩ =>
          quote name ++ ':' :: ' ' :: prettyChars (level + 1) value)
  | value => atom value
termination_by value => sizeOf value
decreasing_by
  · rename_i h; have := List.sizeOf_lt_of_mem h; simp; omega
  · rename_i h; have := List.sizeOf_lt_of_mem h; simp at this ⊢; omega

def compact (value : Json) : String := String.ofList (compactChars value)

def pretty (value : Json) : String := String.ofList (prettyChars 0 value)

end IngressPlane.Json
