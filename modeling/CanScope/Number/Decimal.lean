import CanScope.Text.Digits

/-!
# Decimal literals

The usual spelling of a number: an optional sign, digits with an optional point among or beside
them, and an optional exponent; or, in any case, `inf`, `infinity` or `nan` behind an optional sign.
At least one digit has to stand before the exponent, and at least one in it. The value is kept
exactly, as digits times a power of ten.
-/
namespace CanScope.Number

open CanScope.Text

inductive Decimal where
  /-- The value `± digits · 10 ^ exponent`. -/
  | finite (negative : Bool) (digits : Nat) (exponent : Int)
  | infinite (negative : Bool)
  | notANumber
  deriving DecidableEq, Repr

namespace Decimal

/-- Splits a sign off: `true` for a minus. -/
def sign : List Char → Bool × List Char
  | '-' :: rest => (true, rest)
  | '+' :: rest => (false, rest)
  | cs => (false, cs)

/-- An exponent behind its letter: a sign and at least one digit, and nothing else. -/
def exponent? (cs : List Char) : Option Int :=
  let (negative, digits) := sign cs
  (natural? 10 digits).map fun n => if negative then -(n : Int) else n

def exponentPart? : List Char → Option Int
  | [] => some 0
  | c :: rest => if c = 'e' ∨ c = 'E' then exponent? rest else none

def word? (negative : Bool) (cs : List Char) : Option Decimal :=
  let lower := cs.map Char.toLower
  if lower = ['i', 'n', 'f'] ∨ lower = ['i', 'n', 'f', 'i', 'n', 'i', 't', 'y'] then
    some (.infinite negative)
  else if lower = ['n', 'a', 'n'] then some .notANumber
  else none

/-- Digits, a point, digits and an exponent; the point may be missing, and so may the digits on one
side of it. -/
def number? (negative : Bool) (cs : List Char) : Option Decimal :=
  let whole := cs.takeWhile isDecimalDigit
  let rest := cs.dropWhile isDecimalDigit
  let (fraction, rest) :=
    match rest with
    | '.' :: more => (more.takeWhile isDecimalDigit, more.dropWhile isDecimalDigit)
    | _ => ([], rest)
  (natural? 10 (whole ++ fraction)).bind fun digits =>
    (exponentPart? rest).map fun e => .finite negative digits (e - fraction.length)

def read? (cs : List Char) : Option Decimal :=
  let (negative, body) := sign cs
  (number? negative body).or (word? negative body)

end Decimal

end CanScope.Number
