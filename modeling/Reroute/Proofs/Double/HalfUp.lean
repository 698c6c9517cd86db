import Mathlib.Data.Rat.Floor
import Mathlib.Tactic.FieldSimp
import Reroute.Proofs.Double.Bounds
import Reroute.Proofs.Double.Split
import Reroute.Proofs.Double.Value

/-!
# Decimals rounded to cents

A decimal is rounded to the nearest whole number of cents, a half going up. The digits up to the
second place are this number or one less, and the third place tells which.

## Main definitions

* `Decimal.Scaled.cents` — the number of cents that a decimal is rounded to.

## Main results

* `Decimal.Scaled.value_take` — the digits up to a place.
* `Decimal.Scaled.cents_eq` — how the number of cents is found from the digits.
-/

namespace Reroute.Decimal.Scaled

variable {x : Scaled}

/-- The whole number of cents that a decimal is rounded to, a half going up. -/
def cents (x : Scaled) : ℕ := ⌊x.toRat * 100 + 1 / 2⌋₊

theorem cents_of_short {k : ℕ} (short : x.exponent = k - 2) :
    x.cents = x.coefficient * 10 ^ k := by
  have whole : x.toRat * 100 = (x.coefficient * 10 ^ k : ℕ) := by
    have ten : (10 : ℚ) ≠ 0 := by norm_num
    rw [toRat, short, zpow_sub₀ ten, zpow_natCast]
    push_cast
    field_simp
  rw [cents, whole, Nat.floor_eq_iff (by positivity)]
  constructor <;> linarith

theorem cents_of_long {k : ℕ} (long : x.exponent = -(k + 2)) :
    x.cents = (2 * x.coefficient + 10 ^ k) / (2 * 10 ^ k) := by
  have quotient : x.toRat * 100 + 1 / 2 =
      (2 * x.coefficient + 10 ^ k : ℕ) / (2 * 10 ^ k : ℕ) := by
    have ten : (10 : ℚ) ≠ 0 := by norm_num
    rw [toRat, long, neg_add, zpow_add₀ ten, zpow_neg, zpow_natCast]
    push_cast
    field_simp
    norm_num
    ring
  rw [cents, quotient, Rat.natFloor_natCast_div_natCast]

/-- Rounding half up is decided by the first digit that is cut off. -/
theorem half_up_eq (c : ℕ) {b : ℕ} (hb : 0 < b) :
    (2 * c + 10 * b) / (2 * (10 * b)) =
      c / (10 * b) + if 5 ≤ c / b - 10 * (c / (10 * b)) then 1 else 0 := by
  have low : 2 * (c / b) ≤ 2 * c / b := by
    rw [Nat.le_div_iff_mul_le hb, Nat.mul_assoc]
    exact Nat.mul_le_mul_left 2 (Nat.div_mul_le_self c b)
  have high : 2 * c / b < 2 * (c / b) + 2 := by
    have above : c < (c / b + 1) * b := Nat.lt_mul_of_div_lt (Nat.lt_succ_self _) hb
    rw [Nat.div_lt_iff_lt_mul hb, ← Nat.mul_succ, Nat.mul_assoc]
    exact Nat.mul_lt_mul_of_pos_left above (by decide)
  have twenty : (2 * c + 10 * b) / (2 * (10 * b)) = (2 * c / b + 10) / 20 := by
    rw [← Nat.add_mul_div_right _ _ hb, Nat.div_div_eq_div_mul]
    congr 1
    omega
  have ten : c / (10 * b) = c / b / 10 := by rw [Nat.div_div_eq_div_mul, Nat.mul_comm]
  rw [twenty, ten]
  split <;> omega

/-- The first places of a decimal, without its point. -/
theorem value_take (pos : 0 < x.coefficient) (fraction : x.exponent ≤ 0) (k : ℕ) :
    value (x.split.1 ++ x.split.2.take k) =
      x.coefficient / 10 ^ ((-x.exponent).toNat - k) := by
  obtain ⟨-, places, whole⟩ := split_spec pos
  have digits : ∀ c ∈ x.split.2.drop k, c.isDigit = true := fun c hc =>
    isDigit_of_mem_split (List.mem_append_right _ (List.mem_of_mem_drop hc))
  have parts := value_append_eq (x.split.1 ++ x.split.2.take k) (x.split.2.drop k)
  have rest := value_lt _ digits
  rw [List.append_assoc, List.take_append_drop, whole, Int.toNat_of_nonpos fraction, Nat.pow_zero,
    Nat.mul_one] at parts
  rw [List.length_drop, places] at parts rest
  rw [parts, Nat.mul_comm, Nat.mul_add_div (Nat.pow_pos (by decide)), Nat.div_eq_of_lt rest,
    Nat.add_zero]

/-- The digits after the second place count for one more cent if the first of them is at least
five. -/
theorem cents_eq (pos : 0 < x.coefficient) (long : x.exponent < -2) :
    x.cents = value (x.split.1 ++ x.split.2.take 2) +
      if 5 ≤ digitOf (x.split.2.getD 2 '0') then 1 else 0 := by
  obtain ⟨j, exponent⟩ : ∃ j : ℕ, x.exponent = -((j + 1 : ℕ) + 2) :=
    ⟨(-x.exponent - 3).toNat, by omega⟩
  have two := value_take pos (by omega) 2
  have three := value_take pos (by omega) 3
  have third : x.split.2.take 3 = x.split.2.take 2 ++ [x.split.2.getD 2 '0'] := by
    have some : 2 < x.split.2.length := by
      rw [(split_spec pos).2.1]
      omega
    rw [List.take_add_one, List.getD_eq_getElem?_getD, List.getElem?_eq_getElem some]
    rfl
  have places : (-x.exponent).toNat - 2 = j + 1 ∧ (-x.exponent).toNat - 3 = j := by omega
  rw [third, ← List.append_assoc, value_append_singleton, places.2] at three
  rw [places.1, Nat.pow_succ'] at two
  have digit : digitOf (x.split.2.getD 2 '0') =
      x.coefficient / 10 ^ j - 10 * (x.coefficient / (10 * 10 ^ j)) := by omega
  rw [cents_of_long exponent, Nat.pow_succ', half_up_eq _ (Nat.pow_pos (by decide)), two, digit]

end Reroute.Decimal.Scaled
