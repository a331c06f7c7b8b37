import CanScope.Number.Decimal
import CanScope.Number.Rounding

/-!
# Binary floating point, exactly

A format fixes how many bits a significand has, the least power of two that may multiply it, and
the power of two that no magnitude reaches. `Format.round` gives the member of the format that is
closest to a quotient of naturals; of two equally close ones it takes the even significand. All of
it is arithmetic on naturals, so the result is the same everywhere and can be reasoned about.
-/
namespace CanScope.Number

structure Format where
  precision : Nat
  least : Int
  top : Nat
  deriving DecidableEq, Repr

def Format.binary64 : Format := ⟨53, -1074, 1024⟩

/-- The magnitude `significand · 2 ^ exponent`. -/
structure Magnitude where
  significand : Nat
  exponent : Int
  deriving DecidableEq, Repr

namespace Magnitude

def num (m : Magnitude) : Nat := m.significand * Nat.pow 2 m.exponent.toNat

def den (m : Magnitude) : Nat := Nat.pow 2 (-m.exponent).toNat

theorem den_pos (m : Magnitude) : 0 < m.den := Nat.two_pow_pos _

def zero : Magnitude := ⟨0, 0⟩

end Magnitude

/-- The greatest `k` with `2 ^ k ≤ num / den`, for `num` and `den` not zero. -/
def floorLog2 (num den : Nat) : Int :=
  let k : Int := (num.log2 : Int) - den.log2
  if den * Nat.pow 2 k.toNat ≤ num * Nat.pow 2 (-k).toNat then k else k - 1

namespace Format

/-- The power of two on whose multiples a quotient is rounded. -/
def unit (f : Format) (num den : Nat) : Int :=
  max (floorLog2 num den - (f.precision - 1 : Nat)) f.least

/-- The closest member of the format, `none` if the quotient rounds beyond its range. -/
def round (f : Format) (num den : Nat) : Option Magnitude :=
  if num = 0 then some .zero
  else
    let e := f.unit num den
    let m : Magnitude := ⟨nearest (num * Nat.pow 2 (-e).toNat) (den * Nat.pow 2 e.toNat), e⟩
    if m.num < Nat.pow 2 f.top * m.den then some m else none

/-- Powers of two that enclose `10 ^ e`, which lies between `8 ^ e` and `16 ^ e`. -/
def tenBounds (e : Int) : Int × Int := if 0 ≤ e then (3 * e, 4 * e) else (4 * e, 3 * e)

/-- The member of the format closest to `digits · 10 ^ exponent`. A value far outside the range of
the format is recognised by its powers of two, and the power of ten is not computed. -/
def ofDecimal (f : Format) (digits : Nat) (exponent : Int) : Option Magnitude :=
  if digits = 0 then some .zero
  else if (f.top : Int) ≤ digits.log2 + (tenBounds exponent).1 then none
  else if digits.log2 + (tenBounds exponent).2 + 2 < f.least then some .zero
  else f.round (digits * Nat.pow 10 exponent.toNat) (Nat.pow 10 (-exponent).toNat)

end Format

end CanScope.Number
