import CanScope.Number.Rounding
import Mathlib.Algebra.Order.Field.Basic
import Mathlib.Data.Rat.Cast.Order
import Mathlib.Tactic.FieldSimp
import Mathlib.Tactic.Linarith
import Mathlib.Tactic.Ring

/-!
# The natural number closest to a rational

`IsNearest q n` says of the rational itself what `nearest` computes of a quotient of naturals: `n` is at
most one half away, and even if it is exactly one half away. The second half of that makes the closest
number unique, and so what is rounded never changes its order (`IsNearest.mono`).
-/
namespace CanScope.Number

/-- A quotient halfway between two naturals is rounded to the even one. -/
theorem nearest_even {num den : Nat} (h : 0 < den)
    (tie : 2 * num = 2 * nearest num den * den + den ∨ 2 * nearest num den * den = 2 * num + den) :
    nearest num den % 2 = 0 := by
  have hr := Nat.mod_lt num h
  have hq := Nat.div_add_mod num den
  revert tie
  simp only [nearest]
  generalize num / den = q at hq ⊢
  generalize num % den = r at hq hr ⊢
  subst hq
  have down : 2 * q * den = 2 * (den * q) := by rw [Nat.mul_assoc, Nat.mul_comm q den]
  have up : 2 * (q + 1) * den = 2 * (den * q) + 2 * den := by rw [← down]; ring
  split
  · intro tie
    rw [down] at tie
    omega
  · split
    · intro tie
      rw [up] at tie
      omega
    · intro
      omega

/-- `n` is the natural number closest to `q`, and of two equally close ones the even one. -/
structure IsNearest (q : ℚ) (n : Nat) : Prop where
  close : |(n : ℚ) - q| ≤ 1 / 2
  even : |(n : ℚ) - q| = 1 / 2 → n % 2 = 0

theorem isNearest_nearest (num : Nat) {den : Nat} (h : 0 < den) :
    IsNearest ((num : ℚ) / den) (nearest num den) := by
  have hden : (0 : ℚ) < den := by exact_mod_cast h
  obtain ⟨hup, hdown⟩ := nearest_bounds num den h
  have heven := @nearest_even num den h
  generalize nearest num den = n at hup hdown heven ⊢
  have hscaled : (n : ℚ) - num / den = (2 * n * den - 2 * num) / (2 * den) := by field_simp
  constructor
  · have hup' : (2 * num : ℚ) ≤ (2 * n + 1) * den := by exact_mod_cast hup
    have hdown' : (2 * n * den : ℚ) ≤ 2 * num + den := by exact_mod_cast hdown
    rw [hscaled, abs_le, le_div_iff₀ (by positivity), div_le_iff₀ (by positivity)]
    constructor <;> linarith
  · intro htie
    apply heven
    rcases (abs_eq (by norm_num)).mp htie with hhalf | hhalf
    · right
      rw [hscaled, div_eq_div_iff (by positivity) (by norm_num)] at hhalf
      have : (2 * n * den : ℚ) = 2 * num + den := by linarith
      exact_mod_cast this
    · left
      rw [hscaled, ← neg_div, div_eq_div_iff (by positivity) (by norm_num)] at hhalf
      have : (2 * num : ℚ) = 2 * n * den + den := by linarith
      exact_mod_cast this

/-- Rounding keeps the order. Two neighbours could only change places if both were halfway, and one of
them is odd. -/
theorem IsNearest.mono {p q : ℚ} {m n : Nat} (hm : IsNearest p m) (hn : IsNearest q n) (hpq : p ≤ q) :
    m ≤ n := by
  by_contra hlt
  have hstep : (n : ℚ) + 1 ≤ m := by exact_mod_cast Nat.lt_of_not_le hlt
  obtain ⟨-, hm'⟩ := abs_le.mp hm.close
  obtain ⟨hn', -⟩ := abs_le.mp hn.close
  have hmn : (m : ℚ) = n + 1 := by linarith
  have heven : m % 2 = 0 := by
    apply hm.even
    rw [abs_eq (by norm_num)]
    left
    linarith
  have heven' : n % 2 = 0 := by
    apply hn.even
    rw [abs_eq (by norm_num)]
    right
    linarith
  have : m = n + 1 := by exact_mod_cast hmn
  omega

theorem isNearest_natCast (n : Nat) : IsNearest n n :=
  ⟨by norm_num, by norm_num⟩

theorem IsNearest.le_natCast {q : ℚ} {n bound : Nat} (h : IsNearest q n) (hq : q ≤ bound) : n ≤ bound :=
  h.mono (isNearest_natCast bound) hq

theorem IsNearest.natCast_le {q : ℚ} {n bound : Nat} (h : IsNearest q n) (hq : bound ≤ q) : bound ≤ n :=
  (isNearest_natCast bound).mono h hq

theorem isNearest_zero {q : ℚ} (h : 0 ≤ q) (hlt : q < 1 / 2) : IsNearest q 0 := by
  refine ⟨?_, fun _ => rfl⟩
  rw [Nat.cast_zero, zero_sub, abs_neg, abs_of_nonneg h]
  exact hlt.le

end CanScope.Number
