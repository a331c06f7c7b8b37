/-!
# Rounding a quotient

`nearest a b` is the natural number closest to `a / b`; of two equally close ones it is the even
one. It is never more than half a unit away.
-/
namespace CanScope.Number

def nearest (num den : Nat) : Nat :=
  let q := num / den
  let r := num % den
  if 2 * r < den then q else if den < 2 * r then q + 1 else q + q % 2

theorem nearest_bounds (num den : Nat) (h : 0 < den) :
    2 * num ≤ (2 * nearest num den + 1) * den ∧ 2 * nearest num den * den ≤ 2 * num + den := by
  have hr := Nat.mod_lt num h
  have hq := Nat.div_add_mod num den
  generalize hqe : num / den = q at hq
  generalize hre : num % den = r at hq hr
  subst hq
  have e1 : (2 * q + 1) * den = 2 * (den * q) + den := by
    rw [Nat.add_mul, Nat.mul_assoc, Nat.mul_comm q den, Nat.one_mul]
  have e2 : 2 * q * den = 2 * (den * q) := by rw [Nat.mul_assoc, Nat.mul_comm q den]
  have e3 : (2 * (q + 1) + 1) * den = 2 * (den * q) + 3 * den := by
    rw [show 2 * (q + 1) + 1 = 2 * q + 3 by omega, Nat.add_mul, e2]
  have e4 : 2 * (q + 1) * den = 2 * (den * q) + 2 * den := by
    rw [show 2 * (q + 1) = 2 * q + 2 by omega, Nat.add_mul, e2]
  simp only [nearest, hqe, hre]
  split
  · omega
  · split
    · omega
    · rcases Nat.mod_two_eq_zero_or_one q with hp | hp <;> simp only [hp, Nat.add_zero] <;> omega

@[simp] theorem nearest_one (n : Nat) : nearest n 1 = n := by simp [nearest, Nat.mod_one]

end CanScope.Number
