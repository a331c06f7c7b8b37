import CanScope.Number.Binary
import CanScope.Text.Digits
import CanScope.Toml.Value

/-!
# Numbers in TOML

Single underscores may stand between digits. Integers are decimal with an optional sign and without
leading zeros, or behind `0x`, `0o` or `0b` in that base, and fit 64 bits with a sign. A number with a
fraction or an exponent is real; one too great for a 64-bit floating point number is refused, except
below zero. Infinity and not-a-number are words behind an optional sign.
-/
namespace CanScope.Toml

open CanScope.Number

/-- The digits at the front, without the underscores between them. -/
def digitRun (isDigit : Char → Bool) : List Char → List Char × List Char
  | [] => ([], [])
  | '_' :: d :: rest =>
    if isDigit d then
      let (digits, rest') := digitRun isDigit rest
      (d :: digits, rest')
    else ([], '_' :: d :: rest)
  | d :: rest =>
    if isDigit d then
      let (digits, rest') := digitRun isDigit rest
      (d :: digits, rest')
    else ([], d :: rest)

def digits? (isDigit : Char → Bool) : Reader (List Char)
  | d :: rest => if isDigit d then some (digitRun isDigit (d :: rest)) else none
  | [] => none

/-- A sign, `true` for a minus, and digits without a leading zero. -/
def whole? (cs : List Char) : Option ((Bool × List Char) × List Char) :=
  let (negative, body) := Decimal.sign cs
  match body with
  | '0' :: rest => some ((negative, ['0']), rest)
  | body => (digits? Text.isDecimalDigit body).map fun r => ((negative, r.1), r.2)

def fraction? : Reader (List Char)
  | '.' :: rest => digits? Text.isDecimalDigit rest
  | cs => some ([], cs)

/-- An exponent behind its letter, zero if there is no such letter. -/
def exponent? : Reader Int
  | [] => some (0, [])
  | c :: rest =>
    if c = 'e' ∨ c = 'E' then
      let (negative, body) := Decimal.sign rest
      (digits? Text.isDecimalDigit body).bind fun r =>
        (Text.natural? 10 r.1).map fun n => (if negative then -(n : Int) else n, r.2)
    else some (0, c :: rest)

/-- Whether a real number has a place among 64-bit floating point numbers. -/
def isRepresentable : Decimal → Bool
  | .finite negative digits exponent =>
    negative || (Format.binary64.ofDecimal digits exponent).isSome
  | _ => true

/-- A number with a fraction or an exponent. -/
def fractional? (cs : List Char) : Option (Decimal × List Char) := do
  let ((negative, whole), rest) ← whole? cs
  let (fraction, rest') ← fraction? rest
  let (exponent, rest'') ← exponent? rest'
  let digits ← Text.natural? 10 (whole ++ fraction)
  let d := Decimal.finite negative digits (exponent - fraction.length)
  if rest''.length < rest.length ∧ isRepresentable d then some (d, rest'') else none

def special? (cs : List Char) : Option (Decimal × List Char) :=
  let (negative, body) := Decimal.sign cs
  match body with
  | 'i' :: 'n' :: 'f' :: rest => some (.infinite negative, rest)
  | 'n' :: 'a' :: 'n' :: rest => some (.notANumber, rest)
  | _ => none

/-- An integer that fits 64 bits with a sign. -/
def bounded? (n : Int) : Option Int := if -(Nat.pow 2 63) ≤ n ∧ n < Nat.pow 2 63 then some n else none

def based? (base : Nat) (cs : List Char) : Option (Int × List Char) := do
  let (digits, rest) ← digits? (fun c => (Text.digit? base c).isSome) cs
  let n ← Text.natural? base digits
  let n ← bounded? n
  return (n, rest)

def integer? : Reader Int
  | '0' :: 'x' :: rest => based? 16 rest
  | '0' :: 'o' :: rest => based? 8 rest
  | '0' :: 'b' :: rest => based? 2 rest
  | cs => do
    let ((negative, digits), rest) ← whole? cs
    let n ← Text.natural? 10 digits
    let n ← bounded? (if negative then -(n : Int) else n)
    return (n, rest)

def number? (cs : List Char) : Option (Value × List Char) :=
  let real := fun (r : Decimal × List Char) => (Value.real r.1, r.2)
  ((fractional? cs).or (special? cs)).map real <|>
    (integer? cs).map fun r => (Value.integer r.1, r.2)

end CanScope.Toml
