import CanScope.Number.Binary
import CanScope.Time.Span

/-!
# A number of seconds as a length of time

`Span.ofSecondsText?` reads a decimal literal as seconds. It rounds twice, each time to the closest
value and to the even one of two: the decimal to a 64-bit floating point number, and the exact value
of that to whole nanoseconds. Refused are texts that are no number, numbers that are not finite,
numbers below zero, and numbers that do not fit 64 bits of seconds. Minus zero is zero.
-/
namespace CanScope.Span

open CanScope.Number

/-- Seconds given as a floating point magnitude, rounded to nanoseconds. -/
def ofMagnitude? (m : Magnitude) : Option Span :=
  if m.num < Nat.pow 2 64 * m.den then some ⟨nearest (m.num * perSecond) m.den⟩ else none

def ofDecimal? : Decimal → Option Span
  | .finite negative digits exponent =>
    (Format.binary64.ofDecimal digits exponent).bind fun m =>
      if negative ∧ m.significand ≠ 0 then none else ofMagnitude? m
  | .infinite _ => none
  | .notANumber => none

def ofSecondsText? (cs : List Char) : Option Span := (Decimal.read? cs).bind ofDecimal?

end CanScope.Span
