import CanScope.Time.Span

/-!
# The short form of a length of time

A length is shown in the largest of the units s, ms, µs and ns of which it holds at least one, as a
decimal fraction without trailing zeros: `2s`, `1.5µs`, `500ms`, `0ns`.
-/
namespace CanScope.Span

/-- The digits behind the point for `part` of `whole` parts, where `whole` is a power of ten: as many
places as `whole` has zeros, without the zeros at the end. -/
def fractionDigits (part whole : Nat) : List Char :=
  let digits := (Nat.toDigits 10 (whole + part)).drop 1
  (digits.reverse.dropWhile (· == '0')).reverse

def inUnit (nanos unit : Nat) (name : String) : String :=
  let fraction := fractionDigits (nanos % unit) unit
  let point := if fraction.isEmpty then "" else "."
  toString (nanos / unit) ++ point ++ String.ofList fraction ++ name

def brief (s : Span) : String :=
  if perSecond ≤ s.nanos then inUnit s.nanos perSecond "s"
  else if perMilli ≤ s.nanos then inUnit s.nanos perMilli "ms"
  else if perMicro ≤ s.nanos then inUnit s.nanos perMicro "µs"
  else inUnit s.nanos 1 "ns"

end CanScope.Span
