import IngressPlane.Time.Instant

/-!
The two forms of a time in a certificate: with a two-digit year and an offset from UTC, and with a
four-digit year and a fraction of a second, which is dropped.
-/
namespace IngressPlane.Timestamp

structure ToMinute where
  month : Nat
  day : Nat
  hour : Nat
  minute : Nat
  rest : List Char

def toMinute? (cs : List Char) : Option ToMinute := do
  let (month, rest) ← Instant.digits? 2 cs
  let (day, rest) ← Instant.digits? 2 rest
  let (hour, rest) ← Instant.digits? 2 rest
  let (minute, rest) ← Instant.digits? 2 rest
  return ⟨month, day, hour, minute, rest⟩

/-- The seconds may be left out, but only before a last character. -/
def second? : List Char → Option (Nat × List Char)
  | [] => none
  | [c] => some (0, [c])
  | cs => Instant.digits? 2 cs

def instant? (year : Nat) (t : ToMinute) (second : Nat) (offset : Int) : Option Instant := do
  let date ← Calendar.date? year t.month t.day
  guard (t.hour < 24 && t.minute < 60 && second < 60)
  let time : Int := t.hour * 3600 + t.minute * 60 + second
  return ⟨date.toDays * 86400 + time - offset, 0⟩

/-- An offset from UTC in seconds, of less than 26 hours. -/
def offset? : List Char → Option Int
  | ['Z'] => some 0
  | sign :: rest => do
    let (hours, rest) ← Instant.digits? 2 rest
    let (minutes, rest) ← Instant.digits? 2 rest
    guard (rest.isEmpty && hours < 26 && minutes < 60)
    let seconds : Int := hours * 3600 + minutes * 60
    if sign = '+' then some seconds
    else if sign = '-' then some (if hours = 0 then seconds else -seconds)
    else none
  | [] => none

/-- A time with a two-digit year: below fifty in this century, from fifty in the last one. -/
def short? (cs : List Char) : Option Instant := do
  let (year, rest) ← Instant.digits? 2 cs
  let t ← toMinute? rest
  let (second, rest) ← second? t.rest
  instant? (if year < 50 then 2000 + year else 1900 + year) t second (← offset? rest)

/-- A time with a four-digit year, in UTC. Of a fraction there are at most three digits. -/
def long? (cs : List Char) : Option Instant := do
  let (year, rest) ← Instant.digits? 4 cs
  let t ← toMinute? rest
  let (second, rest) ← second? t.rest
  let rest :=
    match rest with
    | '.' :: rest => rest.drop (rest.take 3 |>.takeWhile Text.isDigit).length
    | rest => rest
  guard (rest = ['Z'])
  instant? year t second 0

end IngressPlane.Timestamp
