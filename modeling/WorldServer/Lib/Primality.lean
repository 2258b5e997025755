import Mathlib.FieldTheory.Finite.Basic

/-!
# Primes from powers

A number is prime if it is less than the square of a part of its predecessor, and that part divides
the predecessor of every prime factor. For a prime part this follows from one power: it is one,
while the power with the part left out of the exponent differs from one by a unit.
-/
namespace WorldServer.Lib

lemma dvd_pred_of_power {n q k : ℕ} (a c : ZMod n) (prime : q.Prime) (one : a ^ (q * k) = 1)
    (unit : (a ^ k - 1) * c = 1) (p : ℕ) (factor : p.Prime) (divides : p ∣ n) : q ∣ p - 1 := by
  have : Fact p.Prime := ⟨factor⟩
  let f := ZMod.castHom divides (ZMod p)
  have one' : f a ^ (q * k) = 1 := by rw [← map_pow, one, map_one]
  have unit' : (f a ^ k - 1) * f c = 1 := by
    rw [← map_pow, ← map_one f, ← map_sub, ← map_mul, unit]
  have notOne : f a ^ k ≠ 1 := by
    intro hs
    rw [hs, sub_self, zero_mul] at unit'
    exact zero_ne_one unit'
  -- the order divides q * k but not k, so the prime q divides the order
  have order : q ∣ orderOf (f a) := by
    by_contra prime_to
    have coprime := ((Nat.Prime.coprime_iff_not_dvd prime).mpr prime_to).symm
    exact notOne (orderOf_dvd_iff_pow_eq_one.mp
      (coprime.dvd_of_dvd_mul_left (orderOf_dvd_of_pow_eq_one one')))
  have nonzero : f a ≠ 0 := by
    intro zero
    by_cases none_left : k = 0
    · exact notOne (by simp [none_left])
    · rw [zero, zero_pow (Nat.mul_ne_zero prime.ne_zero none_left)] at one'
      exact zero_ne_one one'
  exact order.trans (ZMod.orderOf_dvd_card_sub_one nonzero)

lemma prime_of_part {n : ℕ} (part : ℕ) (two : 2 ≤ n) (large : n < part * part)
    (every : ∀ p, p.Prime → p ∣ n → part ∣ p - 1) : n.Prime := by
  by_contra composite
  have factor := Nat.minFac_prime (show n ≠ 1 by omega)
  have small := Nat.minFac_sq_le_self (by omega) composite
  have le := Nat.le_of_dvd (by have := factor.two_le; omega) (every _ factor n.minFac_dvd)
  have least : part ≤ n.minFac := by omega
  have := Nat.mul_le_mul least least
  rw [sq] at small
  omega

end WorldServer.Lib
