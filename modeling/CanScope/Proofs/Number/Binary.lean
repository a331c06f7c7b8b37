import CanScope.Number.Binary
import CanScope.Proofs.Number.Nearest
import Mathlib.Algebra.Order.Field.Power
import Mathlib.Data.Int.Log
import Mathlib.Data.Rat.Floor

/-!
# Rounding to a floating point format

`Format.Rounds f v x` says of a rational `v` what `round` and `ofDecimal` compute of its numerator and
denominator, or of its decimal digits: `x` is the closest multiple of the power of two that belongs to
`v`, the even one of two. That power is `2 ^ f.place v`; it depends on the binary logarithm of `v` only.

**Order.** Between two powers of two all multiples are of one kind, and `IsNearest.mono` applies. What lies
on two sides of a power of two is not rounded across it, since the power itself is a multiple of either kind
(`Rounds.le_zpow`, `Rounds.zpow_le`).

**Shortcuts.** `ofDecimal` does not compute powers of ten far outside the range. The quotient it leaves
uncomputed would have been rounded to zero, or beyond the range.

**Results.**
* `floorLog2_eq_log`: the logarithm is exact.
* `round_spec`, `ofDecimal_spec`: what is computed is the rounding, unless it is out of range.
* `Rounds.mono`: rounding keeps the order.
* `Rounds.error`: it moves a number by at most half a unit.
-/
namespace CanScope.Number

/-- A power with an integer exponent as a quotient of powers with natural ones. -/
theorem zpow_eq_div {b : ℚ} (hb : b ≠ 0) (e : Int) : b ^ e = b ^ e.toNat / b ^ (-e).toNat := by
  rw [← zpow_natCast, ← zpow_natCast, ← zpow_sub₀ hb]
  congr 1
  omega

/-- A power of two is a multiple of every smaller one. -/
theorem two_zpow_eq_mul {a k : Int} (h : a ≤ k) :
    (2 : ℚ) ^ k = ((2 ^ (k - a).toNat : Nat) : ℚ) * 2 ^ a := by
  push_cast
  rw [← zpow_natCast, ← zpow_add₀ two_ne_zero]
  congr 1
  omega

namespace Magnitude

def value (m : Magnitude) : ℚ := m.significand * 2 ^ m.exponent

theorem value_eq_div (m : Magnitude) : m.value = (m.num : ℚ) / m.den := by
  rw [value, zpow_eq_div two_ne_zero, num, den, Nat.pow_eq, Nat.pow_eq]
  push_cast
  ring

theorem value_lt_iff (m : Magnitude) (k : Nat) :
    m.value < 2 ^ k ↔ m.num < Nat.pow 2 k * m.den := by
  have hden : (0 : ℚ) < m.den := by exact_mod_cast m.den_pos
  rw [value_eq_div, div_lt_iff₀ hden, Nat.pow_eq, ← @Nat.cast_lt ℚ]
  push_cast
  rfl

theorem value_zero : zero.value = 0 := by simp [value, zero]

end Magnitude

/-! ## The binary logarithm -/

theorem two_pow_log2_le {n : Nat} (hn : 0 < n) : (2 : ℚ) ^ (n.log2 : Int) ≤ n := by
  rw [zpow_natCast]
  exact_mod_cast Nat.log2_self_le hn.ne'

theorem lt_two_pow_log2 (n : Nat) : (n : ℚ) < 2 ^ ((n.log2 : Int) + 1) := by
  have h : n < 2 ^ (n.log2 + 1) := Nat.lt_log2_self
  rw [← Nat.cast_succ, zpow_natCast]
  exact_mod_cast h

theorem floorLog2_eq_log {num den : Nat} (hn : 0 < num) (hd : 0 < den) :
    floorLog2 num den = Int.log 2 ((num : ℚ) / den) := by
  have hden : (0 : ℚ) < den := by exact_mod_cast hd
  have hpos : (0 : ℚ) < num / den := by positivity
  have le_iff (k : Int) : k ≤ Int.log 2 ((num : ℚ) / den) ↔ (2 : ℚ) ^ k * den ≤ num := by
    rw [← Int.zpow_le_iff_le_log (by norm_num) hpos, le_div_iff₀ hden, Nat.cast_ofNat]
  have hlow : (num.log2 : Int) - den.log2 - 1 ≤ Int.log 2 ((num : ℚ) / den) := by
    rw [le_iff]
    calc (2 : ℚ) ^ ((num.log2 : Int) - den.log2 - 1) * den
        ≤ 2 ^ ((num.log2 : Int) - den.log2 - 1) * 2 ^ ((den.log2 : Int) + 1) := by
          gcongr
          exact (lt_two_pow_log2 den).le
      _ = 2 ^ (num.log2 : Int) := by
          rw [← zpow_add₀ two_ne_zero]
          congr 1
          ring
      _ ≤ num := two_pow_log2_le hn
  have hhigh : ¬(num.log2 : Int) - den.log2 + 1 ≤ Int.log 2 ((num : ℚ) / den) := by
    rw [le_iff, not_le]
    calc (num : ℚ) < 2 ^ ((num.log2 : Int) + 1) := lt_two_pow_log2 num
      _ = 2 ^ ((num.log2 : Int) - den.log2 + 1) * 2 ^ (den.log2 : Int) := by
          rw [← zpow_add₀ two_ne_zero]
          congr 1
          ring
      _ ≤ 2 ^ ((num.log2 : Int) - den.log2 + 1) * den := by
          gcongr
          exact two_pow_log2_le hd
  have htest (k : Int) : den * Nat.pow 2 k.toNat ≤ num * Nat.pow 2 (-k).toNat ↔
      k ≤ Int.log 2 ((num : ℚ) / den) := by
    rw [le_iff, zpow_eq_div two_ne_zero, div_mul_eq_mul_div, div_le_iff₀ (by positivity),
      Nat.pow_eq, Nat.pow_eq, ← @Nat.cast_le ℚ]
    push_cast
    rw [mul_comm (den : ℚ)]
  simp only [floorLog2]
  split
  · next hle =>
    rw [htest] at hle
    omega
  · next hlt =>
    rw [htest] at hlt
    omega

/-! ## Rounding, said of rationals -/

namespace Format

/-- The exponent of the power of two on whose multiples `v` is rounded. -/
def place (f : Format) (v : ℚ) : Int := max (Int.log 2 v - (f.precision - 1 : Nat)) f.least

/-- `x` is `v` rounded to the format, as far as its range is left out of account. -/
def Rounds (f : Format) (v x : ℚ) : Prop :=
  ∃ n : Nat, IsNearest (v / 2 ^ f.place v) n ∧ x = n * 2 ^ f.place v

variable {f : Format} {v w x y : ℚ}

theorem unit_eq_place (f : Format) {num den : Nat} (hn : 0 < num) (hd : 0 < den) :
    f.unit num den = f.place ((num : ℚ) / den) := by
  rw [unit, place, floorLog2_eq_log hn hd]

theorem rounds_zero (f : Format) : f.Rounds 0 0 :=
  ⟨0, by simpa using isNearest_natCast 0, by simp⟩

/-- Rounding does not pass a power of two from below. -/
theorem Rounds.le_zpow (h : f.Rounds v x) {k : Int} (hk : f.place v ≤ k) (hv : v ≤ 2 ^ k) :
    x ≤ 2 ^ k := by
  obtain ⟨n, hn, rfl⟩ := h
  have hunit : (0 : ℚ) < 2 ^ f.place v := by positivity
  rw [two_zpow_eq_mul hk] at hv ⊢
  have hle : n ≤ 2 ^ (k - f.place v).toNat := hn.le_natCast ((div_le_iff₀ hunit).mpr hv)
  gcongr

/-- Nor does it from above. -/
theorem Rounds.zpow_le (h : f.Rounds v x) {k : Int} (hk : f.place v ≤ k) (hv : 2 ^ k ≤ v) :
    2 ^ k ≤ x := by
  obtain ⟨n, hn, rfl⟩ := h
  have hunit : (0 : ℚ) < 2 ^ f.place v := by positivity
  rw [two_zpow_eq_mul hk] at hv ⊢
  have hle : 2 ^ (k - f.place v).toNat ≤ n := hn.natCast_le ((le_div_iff₀ hunit).mpr hv)
  gcongr

/-- **Rounding keeps the order.** -/
theorem Rounds.mono (hx : f.Rounds v x) (hy : f.Rounds w y) (hv : 0 ≤ v) (hvw : v ≤ w) : x ≤ y := by
  rcases hv.eq_or_lt with rfl | hv
  · obtain ⟨m, hm, rfl⟩ := hx
    obtain ⟨n, -, rfl⟩ := hy
    have hzero : m ≤ 0 := hm.le_natCast (by simp)
    rw [Nat.le_zero.mp hzero, Nat.cast_zero, zero_mul]
    positivity
  · have hlog : Int.log 2 v ≤ Int.log 2 w := Int.log_mono_right hv hvw
    by_cases hplace : f.place v = f.place w
    · obtain ⟨m, hm, rfl⟩ := hx
      obtain ⟨n, hn, rfl⟩ := hy
      rw [hplace] at hm ⊢
      have hmn : m ≤ n := hm.mono hn (by gcongr)
      gcongr
    · -- a power of two lies between them
      have hplaces : f.place v ≤ Int.log 2 w ∧ f.place w ≤ Int.log 2 w ∧ Int.log 2 v < Int.log 2 w := by
        simp only [place] at hplace ⊢
        omega
      have hbelow : v ≤ 2 ^ Int.log 2 w := by
        have hlt := (Int.lt_zpow_iff_log_lt one_lt_two hv).mpr hplaces.2.2
        exact_mod_cast hlt.le
      have habove : (2 : ℚ) ^ Int.log 2 w ≤ w := by
        have hle := Int.zpow_log_le_self one_lt_two (hv.trans_le hvw)
        exact_mod_cast hle
      exact (hx.le_zpow hplaces.1 hbelow).trans (hy.zpow_le hplaces.2.1 habove)

/-- Rounding moves a number by at most half a unit. -/
theorem Rounds.error (h : f.Rounds v x) : |x - v| ≤ 2 ^ f.place v / 2 := by
  obtain ⟨n, hn, rfl⟩ := h
  have hunit : (0 : ℚ) < 2 ^ f.place v := by positivity
  have hscaled : n * 2 ^ f.place v - v = (n - v / 2 ^ f.place v) * 2 ^ f.place v := by
    rw [sub_mul, div_mul_cancel₀ _ hunit.ne']
  rw [hscaled, abs_mul, abs_of_pos hunit]
  calc |(n : ℚ) - v / 2 ^ f.place v| * 2 ^ f.place v
      ≤ 1 / 2 * 2 ^ f.place v := by
        gcongr
        exact hn.close
    _ = 2 ^ f.place v / 2 := by ring

/-! ## What is computed -/

/-- Where zero is the answer, it is the rounding, and in range. -/
theorem Rounds.spec_zero (h : f.Rounds v 0) :
    ∃ m : Magnitude, f.Rounds v m.value ∧
      some Magnitude.zero = if m.value < 2 ^ f.top then some m else none := by
  refine ⟨.zero, ?_, ?_⟩
  · rw [Magnitude.value_zero]
    exact h
  · rw [Magnitude.value_zero, if_pos (by positivity)]

theorem round_spec (f : Format) (num : Nat) {den : Nat} (hd : 0 < den) :
    ∃ m : Magnitude, f.Rounds ((num : ℚ) / den) m.value ∧
      f.round num den = if m.value < 2 ^ f.top then some m else none := by
  by_cases hnum : num = 0
  · rw [round, if_pos hnum, hnum, Nat.cast_zero, zero_div]
    exact f.rounds_zero.spec_zero
  · have hunit := f.unit_eq_place (Nat.pos_of_ne_zero hnum) hd
    generalize he : f.unit num den = e at hunit
    have hscaled : 0 < den * Nat.pow 2 e.toNat := Nat.mul_pos hd (Nat.two_pow_pos _)
    let n := nearest (num * Nat.pow 2 (-e).toNat) (den * Nat.pow 2 e.toNat)
    refine ⟨⟨n, e⟩, ⟨n, ?_, ?_⟩, ?_⟩
    · have hnearest := isNearest_nearest (num * Nat.pow 2 (-e).toNat) hscaled
      convert hnearest using 1
      rw [← hunit, zpow_eq_div two_ne_zero, Nat.pow_eq, Nat.pow_eq]
      push_cast
      field_simp
    · rw [Magnitude.value, ← hunit]
    · simp only [round, if_neg hnum, he, Magnitude.value_lt_iff]
      rfl

/-- A power of ten lies between its bounds. -/
theorem tenBounds_spec (e : Int) :
    (2 : ℚ) ^ (tenBounds e).1 ≤ 10 ^ e ∧ (10 : ℚ) ^ e ≤ 2 ^ (tenBounds e).2 := by
  have eight : (2 : ℚ) ^ (3 * e) = 8 ^ e := by
    rw [zpow_mul]
    norm_num
  have sixteen : (2 : ℚ) ^ (4 * e) = 16 ^ e := by
    rw [zpow_mul]
    norm_num
  unfold tenBounds
  split
  · next he =>
    rw [eight, sixteen]
    exact ⟨zpow_le_zpow_left₀ he (by norm_num) (by norm_num),
      zpow_le_zpow_left₀ he (by norm_num) (by norm_num)⟩
  · next he =>
    rw [eight, sixteen]
    obtain ⟨n, rfl⟩ : ∃ n : Nat, e = -n := ⟨(-e).toNat, by omega⟩
    simp only [zpow_neg, zpow_natCast]
    constructor
    · gcongr
      norm_num
    · gcongr
      norm_num

/-- A decimal lies between the powers of two that are compared with the range. -/
theorem decimal_bounds {digits : Nat} (hpos : 0 < digits) (e : Int) :
    (2 : ℚ) ^ ((digits.log2 : Int) + (tenBounds e).1) ≤ digits * 10 ^ e ∧
      (digits * 10 ^ e : ℚ) < 2 ^ ((digits.log2 : Int) + 1 + (tenBounds e).2) := by
  obtain ⟨hlow, hhigh⟩ := tenBounds_spec e
  rw [zpow_add₀ two_ne_zero, zpow_add₀ two_ne_zero _ (tenBounds e).2]
  constructor
  · exact mul_le_mul (two_pow_log2_le hpos) hlow (by positivity) (by positivity)
  · exact mul_lt_mul (lt_two_pow_log2 digits) hhigh (by positivity) (by positivity)

/-- What is far below the least unit is rounded to zero. -/
theorem rounds_zero_of_lt (hv : 0 < v) (hlt : v < 2 ^ (f.least - 1)) : f.Rounds v 0 := by
  have hlog : Int.log 2 v < f.least - 1 := by
    rw [← Int.lt_zpow_iff_log_lt (by norm_num) hv]
    exact_mod_cast hlt
  have hplace : f.place v = f.least := by
    rw [place]
    omega
  refine ⟨0, isNearest_zero (by positivity) ?_, by simp⟩
  rw [hplace, div_lt_iff₀ (by positivity)]
  calc v < 2 ^ (f.least - 1) := hlt
    _ = 1 / 2 * 2 ^ f.least := by
        rw [zpow_sub_one₀ two_ne_zero]
        ring

/-- What is beyond the range is rounded to something beyond it. -/
theorem Rounds.two_pow_le (hf : f.least ≤ f.top) (h : f.Rounds v x) (hv : 2 ^ f.top ≤ v) :
    2 ^ f.top ≤ x := by
  have hpos : (0 : ℚ) < v := lt_of_lt_of_le (by positivity) hv
  have hlog : (f.top : Int) ≤ Int.log 2 v := by
    rw [← Int.zpow_le_iff_le_log (by norm_num) hpos, Nat.cast_ofNat, zpow_natCast]
    exact hv
  have hplace : f.place v ≤ Int.log 2 v := by
    rw [place]
    omega
  have hself : (2 : ℚ) ^ Int.log 2 v ≤ v := by
    have hle := Int.zpow_log_le_self one_lt_two hpos
    exact_mod_cast hle
  calc (2 : ℚ) ^ f.top = 2 ^ (f.top : Int) := (zpow_natCast 2 f.top).symm
    _ ≤ 2 ^ Int.log 2 v := zpow_le_zpow_right₀ (by norm_num) hlog
    _ ≤ x := h.zpow_le hplace hself

/-- **A decimal is rounded to the format**, and refused if that is out of range. -/
theorem ofDecimal_spec (hf : f.least ≤ f.top) (digits : Nat) (exponent : Int) :
    ∃ m : Magnitude, f.Rounds (digits * 10 ^ exponent) m.value ∧
      f.ofDecimal digits exponent = if m.value < 2 ^ f.top then some m else none := by
  have hquotient : ((digits * Nat.pow 10 exponent.toNat : Nat) : ℚ) /
      (Nat.pow 10 (-exponent).toNat : Nat) = digits * 10 ^ exponent := by
    rw [zpow_eq_div (by norm_num : (10 : ℚ) ≠ 0), Nat.pow_eq, Nat.pow_eq]
    push_cast
    ring
  have hden : 0 < Nat.pow 10 (-exponent).toNat := Nat.pow_pos (by norm_num)
  have hround := f.round_spec (digits * Nat.pow 10 exponent.toNat) hden
  rw [hquotient] at hround
  by_cases hdigits : digits = 0
  · rw [ofDecimal, if_pos hdigits, hdigits, Nat.cast_zero, zero_mul]
    exact f.rounds_zero.spec_zero
  obtain ⟨hlow, hhigh⟩ := decimal_bounds (Nat.pos_of_ne_zero hdigits) exponent
  rw [ofDecimal, if_neg hdigits]
  split
  · next hlarge =>
    obtain ⟨m, hm, -⟩ := hround
    have hv : (2 : ℚ) ^ f.top ≤ digits * 10 ^ exponent := by
      rw [← zpow_natCast]
      exact (zpow_le_zpow_right₀ (by norm_num) hlarge).trans hlow
    exact ⟨m, hm, by rw [if_neg (not_lt.mpr (hm.two_pow_le hf hv))]⟩
  · split
    · next hsmall =>
      have hv : (digits * 10 ^ exponent : ℚ) < 2 ^ (f.least - 1) :=
        hhigh.trans_le (zpow_le_zpow_right₀ (by norm_num) (by omega))
      have hpos : (0 : ℚ) < digits * 10 ^ exponent := lt_of_lt_of_le (by positivity) hlow
      exact (rounds_zero_of_lt hpos hv).spec_zero
    · exact hround

end Format

end CanScope.Number
