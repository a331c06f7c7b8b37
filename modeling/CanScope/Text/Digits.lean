/-!
# Numbers as digits

Reading and writing naturals in a base from two to sixteen. Letters of either case count as the
digits from ten on; hexadecimal is written in upper case.

* `natural?`: the value of a text that consists of digits, at least one.
* `signless?`: the same with one plus sign allowed in front.
* `hex`, `hexByte`, `padStart`: writing.
-/
namespace CanScope.Text

/-- The value of `c` as a digit below `base`. -/
def digit? (base : Nat) (c : Char) : Option Nat :=
  let value :=
    if '0' ≤ c ∧ c ≤ '9' then some (c.toNat - '0'.toNat)
    else if 'a' ≤ c ∧ c ≤ 'z' then some (c.toNat - 'a'.toNat + 10)
    else if 'A' ≤ c ∧ c ≤ 'Z' then some (c.toNat - 'A'.toNat + 10)
    else none
  value.filter (· < base)

def isDecimalDigit (c : Char) : Bool := '0' ≤ c && c ≤ '9'

def isHexDigit (c : Char) : Bool := (digit? 16 c).isSome

/-- The value of the digits read after the value `start`. -/
def digitsFrom? (base : Nat) (start : Nat) : List Char → Option Nat
  | [] => some start
  | c :: rest => (digit? base c).bind fun d => digitsFrom? base (start * base + d) rest

theorem digitsFrom?_append (base start : Nat) (l r : List Char) :
    digitsFrom? base start (l ++ r) = (digitsFrom? base start l).bind (digitsFrom? base · r) := by
  induction l generalizing start with
  | nil => rfl
  | cons c l ih =>
    simp only [List.cons_append, digitsFrom?]
    cases digit? base c with
    | none => rfl
    | some d => exact ih _

/-- The value of a text of digits. The empty text has none. -/
def natural? (base : Nat) : List Char → Option Nat
  | [] => none
  | cs => digitsFrom? base 0 cs

/-- As `natural?`, with one plus sign allowed in front. -/
def signless? (base : Nat) : List Char → Option Nat
  | '+' :: cs => natural? base cs
  | cs => natural? base cs

/-- The upper-case hexadecimal digits of `n`, without leading zeros. -/
def hexDigits (n : Nat) : List Char := (Nat.toDigits 16 n).map Char.toUpper

def padStart (width : Nat) (fill : Char) (cs : List Char) : List Char :=
  List.replicate (width - cs.length) fill ++ cs

/-- `n` in upper-case hexadecimal, filled with zeros to at least `width` digits. -/
def hex (width n : Nat) : String := String.ofList (padStart width '0' (hexDigits n))

def hexByte (b : UInt8) : List Char := padStart 2 '0' (hexDigits b.toNat)

/-- The bytes in hexadecimal with one space between neighbours. -/
def spacedHex (data : List UInt8) : String :=
  String.ofList (((data.map hexByte).intersperse [' ']).flatten)

end CanScope.Text
