import Mathlib.Algebra.Order.Field.Basic
import Mathlib.Tactic.FieldSimp
import Reroute.Proofs.Double.Rounding
import Reroute.Proofs.Double.Value

/-!
# The nearest double

Rounding to 53 significant bits yields a magnitude to which the exact quotient is as near as to any
other one, also where the distances between magnitudes change.

## Main results

* `Decimal.nearest_le_distance` — no natural is nearer to a quotient than the nearest one.
* `Magnitude.roundQuotient_le_distance`, `Double.ofRatio_le_distance` — no magnitude is.
-/

namespace Reroute

/-- No natural is nearer to a quotient. -/
theorem Decimal.nearest_le_distance (a : Nat) {b : Nat} (hb : 0 < b) (k : Nat) :
    |((nearest a b * b : Nat) : ℤ) - a| ≤ |((k * b : Nat) : ℤ) - a| := by
  obtain ⟨above, below⟩ := nearest_within_half (a := a) hb
  have apart : k * b = nearest a b * b ∨ k * b + b ≤ nearest a b * b ∨
      nearest a b * b + b ≤ k * b := by
    rw [← Nat.succ_mul, ← Nat.succ_mul]
    rcases Nat.lt_trichotomy k (nearest a b) with less | rfl | more
    · exact .inr (.inl (Nat.mul_le_mul_right b less))
    · exact .inl rfl
    · exact .inr (.inr (Nat.mul_le_mul_right b more))
  generalize nearest a b * b = x at *
  generalize k * b = y at *
  rw [abs_le, le_abs, neg_le, le_abs]
  omega

namespace Magnitude

/-- From the least number of a binade on, all magnitudes are multiples of its distances. -/
theorem dvd_of_binade_le (m : Magnitude) {s : Nat} (h : 2 ^ 52 * 2 ^ s ≤ m.quanta) :
    2 ^ s ∣ m.quanta := by
  refine Nat.dvd_trans (Nat.pow_dvd_pow 2 (Nat.le_of_not_lt fun less => ?_)) m.fits.1
  have small := (spare_spec m.quanta).1
  have half : 2 ^ (spare m.quanta + 1) ≤ 2 ^ s := Nat.pow_le_pow_right (by decide) less
  rw [Nat.pow_succ] at half
  omega

/-- No magnitude is nearer to a quotient than what this is rounded to. -/
theorem roundQuotient_le_distance (a : Nat) {b : Nat} (hb : 0 < b) (m : Magnitude) :
    |((roundQuotient a b * b : Nat) : ℤ) - a| ≤ |((m.quanta * b : Nat) : ℤ) - a| := by
  obtain ⟨-, low⟩ := spare_spec (a / b)
  unfold roundQuotient
  generalize spare (a / b) = s at *
  have pos : 0 < b * 2 ^ s := Nat.mul_pos hb (Nat.two_pow_pos s)
  have multiple (k : Nat) :
      |((Decimal.nearest a (b * 2 ^ s) * 2 ^ s * b : Nat) : ℤ) - a| ≤
        |((k * 2 ^ s * b : Nat) : ℤ) - a| := by
    have swap (x : Nat) : x * 2 ^ s * b = x * (b * 2 ^ s) := by
      rw [Nat.mul_assoc, Nat.mul_comm (2 ^ s)]
    rw [swap, swap]
    exact Decimal.nearest_le_distance a pos k
  by_cases binade : s = 0 ∨ 2 ^ 52 * 2 ^ s ≤ m.quanta
  · obtain ⟨k, hk⟩ : 2 ^ s ∣ m.quanta := by
      rcases binade with rfl | large
      · simp
      · exact m.dvd_of_binade_le large
    rw [hk, Nat.mul_comm (2 ^ s)]
    exact multiple k
  · -- Smaller magnitudes are farther away than the least one of the binade.
    obtain ⟨some, less⟩ := not_or.1 binade
    have least : 2 ^ 52 * 2 ^ s * b ≤ a :=
      (Nat.le_div_iff_mul_le hb).1 (low.resolve_left some)
    have below : m.quanta * b ≤ 2 ^ 52 * 2 ^ s * b :=
      Nat.mul_le_mul_right b (Nat.le_of_lt (Nat.lt_of_not_le less))
    refine (multiple (2 ^ 52)).trans ?_
    generalize 2 ^ 52 * 2 ^ s * b = x at *
    generalize m.quanta * b = y at *
    rw [abs_le, le_abs, neg_le, le_abs]
    omega

end Magnitude

/-- No double is nearer to a quotient of naturals than the one that is nearest to it. -/
theorem Double.ofRatio_le_distance {a b : Nat} (hb : 0 < b) {s : Bool} {m : Magnitude}
    (h : ofRatio a b = .finite s m) (other : Magnitude) :
    |m.toRat - a / b| ≤ |other.toRat - a / b| := by
  have quanta := (of_ofQuanta_eq_finite h).2
  have near := Magnitude.roundQuotient_le_distance (a * Magnitude.unit) hb other
  rw [← quanta] at near
  have scale : (0 : ℚ) < Magnitude.unit * b := by
    exact_mod_cast Nat.mul_pos Magnitude.unit_pos hb
  have distance (x : Magnitude) : x.toRat - a / b =
      (((x.quanta * b : Nat) : ℤ) - (a * Magnitude.unit : Nat) : ℤ) / (Magnitude.unit * b) := by
    have pos : (Magnitude.unit : ℚ) ≠ 0 := Nat.cast_ne_zero.2 (Nat.ne_of_gt Magnitude.unit_pos)
    have pos' : (b : ℚ) ≠ 0 := Nat.cast_ne_zero.2 (Nat.ne_of_gt hb)
    rw [Magnitude.toRat]
    push_cast
    field_simp
  rw [distance, distance, abs_div, abs_div, ← Int.cast_abs, ← Int.cast_abs]
  gcongr

end Reroute
