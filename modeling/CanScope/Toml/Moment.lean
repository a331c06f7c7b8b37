import CanScope.Text.Digits
import CanScope.Toml.Value

/-!
# Dates and times in TOML

A date is `1979-05-27`, a time `07:32:00` with an optional fraction of seconds; both may be joined by a
`T` or a blank, and may then have an offset, `Z` or `-07:00`. The fields have to be in range, days for
their month and year, and a minute may have a second 60.
-/
namespace CanScope.Toml

/-- Exactly `count` decimal digits, with a value from `least` to `greatest`. -/
def field? (count least greatest : Nat) (cs : List Char) : Option (Nat × List Char) :=
  let digits := cs.take count
  if digits.length = count then
    (Text.natural? 10 digits).bind fun n =>
      if least ≤ n ∧ n ≤ greatest then some (n, cs.drop count) else none
  else none

/-- What follows `c`. -/
def after? (c : Char) : List Char → Option (List Char)
  | d :: rest => if d = c then some rest else none
  | [] => none

def daysIn (year month : Nat) : Nat :=
  if month = 2 then
    if year % 4 = 0 ∧ (year % 100 ≠ 0 ∨ year % 400 = 0) then 29 else 28
  else if month ∈ [4, 6, 9, 11] then 30
  else 31

def date? (cs : List Char) : Option (List Char) := do
  let (year, rest) ← field? 4 0 9999 cs
  let (month, rest) ← field? 2 1 12 (← after? '-' rest)
  let (_, rest) ← field? 2 1 (daysIn year month) (← after? '-' rest)
  return rest

/-- What follows a fraction of seconds, if there is one. -/
def skipFraction : List Char → List Char
  | '.' :: d :: rest =>
    if Text.isDecimalDigit d then rest.dropWhile Text.isDecimalDigit else '.' :: d :: rest
  | cs => cs

def time? (cs : List Char) : Option (List Char) := do
  let (_, rest) ← field? 2 0 23 cs
  let (_, rest) ← field? 2 0 59 (← after? ':' rest)
  let (_, rest) ← field? 2 0 60 (← after? ':' rest)
  return skipFraction rest

def offset? : List Char → Option (List Char)
  | [] => none
  | c :: rest =>
    if c = 'Z' ∨ c = 'z' then some rest
    else if c = '+' ∨ c = '-' then do
      let (_, rest) ← field? 2 0 23 rest
      let (_, rest) ← field? 2 0 59 (← after? ':' rest)
      return rest
    else none

/-- What follows a time that is joined to a date, with its offset. -/
def joinedTime? : List Char → Option (List Char)
  | [] => none
  | c :: rest =>
    if c = 'T' ∨ c = 't' ∨ c = ' ' then (time? rest).map fun r => (offset? r).getD r else none

/-- What follows a date, a time, or both. -/
def afterMoment? (cs : List Char) : Option (List Char) :=
  match date? cs with
  | some rest => some ((joinedTime? rest).getD rest)
  | none => time? cs

def moment? (cs : List Char) : Option (Value × List Char) :=
  (afterMoment? cs).map fun rest =>
    (.moment (String.ofList (cs.take (cs.length - rest.length))), rest)

end CanScope.Toml
