import CanScope.Text.Blank
import CanScope.Text.Digits
import CanScope.Time.Span

/-!
# Lengths of time as people write them

`Span.read?` reads items such as `1h 30m`, each a number and a unit, and adds them up. Blanks may
stand before and behind an item, between its number and its unit, and even between digits; items
need no blank between them. The text `0` alone is zero; any other number needs a unit.

A number may have a fraction if the result is exact: in nanoseconds for units up to the minute, in
whole seconds for longer units. Fractions of a nanosecond are refused even if they are zero.
All numbers have 64 bits, and so do the seconds of the result and the nanoseconds of an item; what
does not fit is refused. A month is 30.44 days and a year 365.25 days.

`Span.readable` writes the same form, with years, months and days spelled out, largest unit first.
-/
namespace CanScope

open CanScope.Text

inductive TimeUnit where
  | nanosecond | microsecond | millisecond | second | minute | hour | day | week | month | year
  deriving DecidableEq, Repr

namespace TimeUnit

/-- The names of the units. The case of a letter counts: `m` is a minute and `M` a month. -/
def names : List (TimeUnit × List String) :=
  [(.nanosecond, ["nanos", "nsec", "ns"]),
   (.microsecond, ["usec", "us", "µs"]),
   (.millisecond, ["millis", "msec", "ms"]),
   (.second, ["seconds", "second", "secs", "sec", "s"]),
   (.minute, ["minutes", "minute", "min", "mins", "m"]),
   (.hour, ["hours", "hour", "hrs", "hr", "h"]),
   (.day, ["days", "day", "d"]),
   (.week, ["weeks", "week", "wks", "wk", "w"]),
   (.month, ["months", "month", "M"]),
   (.year, ["years", "year", "yrs", "yr", "y"])]

def ofName? (name : String) : Option TimeUnit :=
  (names.find? fun entry => entry.2.contains name).map (·.1)

/-- How many nanoseconds one unit is, for the units below the second. -/
def nanos? : TimeUnit → Option Nat
  | .nanosecond => some 1
  | .microsecond => some 1000
  | .millisecond => some 1000000
  | _ => none

def seconds : TimeUnit → Nat
  | .second => 1
  | .minute => 60
  | .hour => 3600
  | .day => 86400
  | .week => 604800
  | .month => 2630016
  | .year => 31557600
  | _ => 0

end TimeUnit

namespace Span

/-- Whether a number fits 64 bits. -/
def fits (n : Nat) : Bool := n < Nat.pow 2 64

/-- A fraction as it is written: its digits as a number, and how many there are. -/
structure Fraction where
  digits : Nat
  places : Nat
  deriving DecidableEq, Repr

def addNanos? (sum : Span) (n : Nat) : Option Span :=
  if fits n && fits (sum.subsecond + n) && decide (sum + ⟨n⟩ < limit) then some (sum + ⟨n⟩) else none

def addSeconds? (sum : Span) (n : Nat) : Option Span :=
  if fits n && decide (sum + ofSeconds n < limit) then some (sum + ofSeconds n) else none

/-- `digits · scale / 10 ^ places`, if the product fits 64 bits and the quotient is whole. -/
def Fraction.times? (f : Fraction) (scale : Nat) : Option Nat :=
  if fits (f.digits * scale) && f.digits * scale % Nat.pow 10 f.places == 0 then
    some (f.digits * scale / Nat.pow 10 f.places)
  else none

def addWhole? (sum : Span) (unit : TimeUnit) (n : Nat) : Option Span :=
  match unit.nanos? with
  | some scale => addNanos? sum (n * scale)
  | none => addSeconds? sum (n * unit.seconds)

def addFraction? (sum : Span) (unit : TimeUnit) (f : Fraction) : Option Span :=
  match unit with
  | .nanosecond => none
  | .microsecond => (f.times? perMicro).bind sum.addNanos?
  | .millisecond => (f.times? perMilli).bind sum.addNanos?
  | .second => (f.times? perSecond).bind sum.addNanos?
  | .minute => (f.times? (60 * perSecond)).bind sum.addNanos?
  | _ => (f.times? unit.seconds).bind sum.addSeconds?

def isUnitLetter (c : Char) : Bool := ('a' ≤ c && c ≤ 'z') || ('A' ≤ c && c ≤ 'Z') || c == 'µ'

def isDigitOrBlank (c : Char) : Bool := isDecimalDigit c || isBlank c

/-- The number that the digits among `cs` form, if it fits 64 bits. -/
def number? (cs : List Char) : Option Nat :=
  (natural? 10 (cs.filter isDecimalDigit)).filter fits

/-- The digits of a fraction: at least one, and at most nineteen, for more do not fit 64 bits. -/
def fraction? (cs : List Char) : Option Fraction :=
  let digits := cs.filter isDecimalDigit
  if digits.length ≤ 19 then (natural? 10 digits).map (⟨·, digits.length⟩) else none

def fractionPart? : List Char → Option (Option Fraction × List Char)
  | '.' :: rest =>
    (fraction? (rest.takeWhile isDigitOrBlank)).map fun f => (some f, rest.dropWhile isDigitOrBlank)
  | cs => some (none, cs)

/-- Adds the item that starts at a digit, and returns what follows its unit. -/
def item? (sum : Span) (cs : List Char) : Option (Span × List Char) := do
  let n ← number? (cs.takeWhile isDigitOrBlank)
  let (fraction, rest) ← fractionPart? (cs.dropWhile isDigitOrBlank)
  let unit ← TimeUnit.ofName? (String.ofList (rest.takeWhile isUnitLetter))
  let sum ← sum.addWhole? unit n
  let sum ←
    match fraction with
    | some f => sum.addFraction? unit f
    | none => some sum
  return (sum, rest.dropWhile isUnitLetter)

/-- What follows a unit: the end, a blank, or the next item. Then blanks may follow. -/
def afterUnit? : List Char → Option (List Char)
  | [] => some []
  | c :: rest => if isDigitOrBlank c then some (trimStart (c :: rest)) else none

/-- Adds all items. Each is at least one character long, so a text of `n` characters has at most `n`
items. -/
def items? : Nat → Span → List Char → Option Span
  | _, sum, [] => some sum
  | 0, _, _ => none
  | n + 1, sum, c :: rest => do
    if isDecimalDigit c then
      let (sum, after) ← item? sum (c :: rest)
      items? n sum (← afterUnit? after)
    else none

def read? (cs : List Char) : Option Span :=
  if cs = ['0'] then some .zero
  else
    match trimStart cs with
    | [] => none
    | c :: rest => items? (rest.length + 1) .zero (c :: rest)

/-- An amount of a unit, left out if it is zero. -/
def amount (n : Nat) (unit : String) : List String := if n = 0 then [] else [toString n ++ unit]

/-- As `amount`, with a plural. -/
def counted (n : Nat) (unit : String) : List String :=
  amount n (if n = 1 then unit else unit ++ "s")

def readable (s : Span) : String :=
  let yearRest := s.seconds % TimeUnit.year.seconds
  let monthRest := yearRest % TimeUnit.month.seconds
  let dayRest := monthRest % TimeUnit.day.seconds
  let n := s.subsecond
  let parts :=
    counted (s.seconds / TimeUnit.year.seconds) "year" ++
      counted (yearRest / TimeUnit.month.seconds) "month" ++
      counted (monthRest / TimeUnit.day.seconds) "day" ++
      amount (dayRest / 3600) "h" ++ amount (dayRest % 3600 / 60) "m" ++ amount (dayRest % 60) "s" ++
      amount (n / perMilli) "ms" ++ amount (n / perMicro % 1000) "us" ++ amount (n % 1000) "ns"
  if parts.isEmpty then "0s" else " ".intercalate parts

end Span

end CanScope
