import Reroute.Proofs.Double.HalfUp
import Reroute.Proofs.Double.Hundredths
import Reroute.Proofs.Rate

/-!
# Accepted rates are whole cents

A rate with more than two places is rounded to cents by way of doubles. Only numbers below `2 ^ 46`
need so many places. Their cents are exact doubles, so that the hundredth that is taken in the end
is the only step that rounds, and every accepted rate is the double nearest to a whole number of
cents.

## Main definitions

* `Rate.cutCents` — the digits up to the second place.

## Main results

* `Rate.cutCents_lt` — they are few if there is a third place.
* `Rate.toCents_eq` — a rate is rounded to the hundredth of the cents of its shortest spelling.
* `Rate.cents_of_ofInput` — every input that is accepted is zero or nearest to a number of cents.
-/

namespace Reroute

namespace Double

theorem toDouble_eq_ofNat {n : Nat} (h : n < 10 ^ 20) :
    Decimal.Scaled.toDouble false ⟨n, 0⟩ = ofNat n := by
  have few := Decimal.width_le h (by decide)
  have leading : Decimal.Scaled.leading ⟨n, 0⟩ = Decimal.width n - 1 := by
    simp [Decimal.Scaled.leading]
  unfold Decimal.Scaled.toDouble
  split
  · rename_i none
    obtain rfl : n = 0 := none
    decide +kernel
  · rw [if_neg (by omega), if_neg (by omega)]
    have one : Decimal.tenNum 0 = 1 ∧ Decimal.tenDen 0 = 1 := ⟨rfl, rfl⟩
    simp only [one, Nat.mul_one]
    rfl

theorem add_one {n : Nat} (h : n < 2 ^ 53) : (ofNat n).add 1 = ofNat (n + 1) := by
  have one : (1 : Double) = ofNat 1 := rfl
  rw [one, ofNat_of_le (Nat.le_of_lt h), ofNat_of_le (n := 1) (by decide), add, if_pos rfl, ofNat,
    ofRatio, Nat.add_mul]

/-- A hundredth of an exact whole number is rounded once. -/
theorem div_hundred {n : Nat} (h : n ≤ 2 ^ 53) : (ofNat n).div 100 = ofRatio n 100 := by
  have hundred : (100 : Double) = ofNat 100 := rfl
  rw [hundred, ofNat_of_le h, finite_div_ofNat _ _ (by decide) (by decide)]
  rfl

end Double

/-- How many places the shortest decimal is written with. -/
theorem Magnitude.length_places (m : Magnitude) :
    m.shortest.split.2.length = (-m.shortest.exponent).toNat := by
  by_cases zero : m.quanta = 0
  · rw [shortest_of_zero zero]
    decide +kernel
  · exact (Decimal.Scaled.split_spec ((roundedFrom_shortest zero).pos zero)).2.1

namespace Rate

open Magnitude (unit)

variable {m r : Magnitude}

/-- The whole cents of a magnitude that is written with more than two places, without what follows
the second one. -/
def cutCents (m : Magnitude) : Nat :=
  Decimal.value (m.shortest.split.1 ++ m.shortest.split.2.take 2)

/-- Magnitudes that are written with more than two places have so few cents that these are exact
doubles, and one more is, too. -/
theorem cutCents_lt (long : m.shortest.exponent < -2) : cutCents m + 1 < 2 ^ 53 := by
  have hm := Magnitude.ne_zero_of_exponent_lt long
  have rounds := Magnitude.roundedFrom_shortest hm
  have small := Magnitude.lt_of_exponent_lt long
  have narrow := Magnitude.gap_le_unit small
  have upper := rounds.between.2
  have places : (-m.shortest.exponent).toNat = (-m.shortest.exponent).toNat - 2 + 2 := by omega
  have ten : Decimal.tenNum m.shortest.exponent = 1 ∧ Decimal.tenDen m.shortest.exponent =
      10 ^ ((-m.shortest.exponent).toNat - 2) * 100 := by
    unfold Decimal.tenNum Decimal.tenDen
    rw [Int.toNat_of_nonpos (by omega), places, Nat.pow_add]
    exact ⟨rfl, by simp⟩
  rw [cutCents, Decimal.Scaled.value_take (rounds.pos hm) (by omega)]
  rw [ten.1, ten.2, Nat.mul_one] at upper
  generalize 10 ^ ((-m.shortest.exponent).toNat - 2) = p at *
  have few : m.shortest.coefficient ≤ p * (25 * (2 ^ 48 + 1)) := by
    refine Nat.le_of_mul_le_mul_right (c := 4 * unit) (Nat.le_trans upper ?_)
      (Nat.mul_pos (by decide) Magnitude.unit_pos)
    calc (4 * m.quanta + m.reachUp) * (p * 100)
        ≤ (2 ^ 48 + 1) * unit * (p * 100) := Nat.mul_le_mul_right _ (by
          unfold Magnitude.reachUp
          omega)
      _ = p * (25 * (2 ^ 48 + 1)) * (4 * unit) := by ring
  have := Nat.div_le_of_le_mul few
  omega

/-- If a number of cents rounds to a magnitude, this is its hundredth. -/
theorem ofRatio_of_roundedFrom {n : Nat} (h : m.RoundedFrom n (-2)) :
    Double.ofRatio n 100 = .finite false m := by
  rw [Magnitude.roundedFrom_iff, show Decimal.tenNum (-2) = 1 from rfl, Nat.mul_one] at h
  exact Double.ofQuanta_of_roundQuotient false h

theorem spelled_of_zero (zero : m.quanta = 0) :
    m.shortest.cents = 0 ∧ toCents m = .zero := by
  have spelled := Magnitude.shortest_of_zero zero
  have digits : Decimal.Scaled.split ⟨0, 0⟩ = (['0'], []) := by decide +kernel
  constructor
  · rw [spelled, Decimal.Scaled.cents_of_short (k := 2) rfl, Nat.zero_mul]
  · unfold toCents
    rw [spelled, digits, Magnitude.eq_zero_of_quanta zero]
    rfl

/-- Rounding to cents yields the double nearest to the number of cents that the shortest spelling is
rounded to. -/
theorem toCents_eq (m : Magnitude) : toCents m = .ofRatio m.shortest.cents 100 := by
  by_cases zero : m.quanta = 0
  · rw [(spelled_of_zero zero).1, (spelled_of_zero zero).2]
    decide +kernel
  · have rounds := Magnitude.roundedFrom_shortest zero
    have places := m.length_places
    unfold toCents
    dsimp only
    by_cases long : m.shortest.exponent < -2
    · have few := cutCents_lt long
      have whole : Decimal.value (m.shortest.split.1 ++ m.shortest.split.2.take 2) = cutCents m :=
        rfl
      rw [if_neg (by omega), whole, Double.toDouble_eq_ofNat (by omega), Decimal.Scaled.cents_eq
        (rounds.pos zero) long, whole]
      split
      · rw [Double.add_one (by omega), Double.div_hundred (by omega)]
      · rw [Double.div_hundred (by omega), Nat.add_zero]
    · obtain ⟨k, exponent⟩ : ∃ k : ℕ, m.shortest.exponent = k - 2 :=
        ⟨(m.shortest.exponent + 2).toNat, by omega⟩
      have shift : (-2 : ℤ) + k = m.shortest.exponent := by omega
      rw [if_pos (by omega), Decimal.Scaled.cents_of_short exponent]
      exact (ofRatio_of_roundedFrom ((Magnitude.roundedFrom_shift k).2 (shift ▸ rounds))).symm

/-- The hundredth of a number of cents is zero or the double to which these round. -/
theorem cents_of_ofRatio {n : Nat} {s : Bool} (h : Double.ofRatio n 100 = .finite s r) :
    r.quanta = 0 ∨ 0 < n ∧ r.RoundedFrom n (-2) := by
  have quanta := (Double.of_ofQuanta_eq_finite h).2
  rcases Nat.eq_zero_or_pos n with rfl | pos
  · left
    rw [quanta, Nat.zero_mul]
    decide +kernel
  · refine .inr ⟨pos, Magnitude.roundedFrom_iff.2 ?_⟩
    rw [quanta, show Decimal.tenNum (-2) = 1 from rfl, Nat.mul_one]
    rfl

/-- An accepted rate is what a number that is read, and not below zero, is rounded to. -/
theorem exists_of_ofInput {raw : String} {r : Double} (h : ofInput raw = .ok (some r)) :
    ∃ (negative : Bool) (m : Magnitude),
      Double.read? (Text.trim raw.toList) = some (.finite negative m) ∧
      (negative = true → m.quanta = 0) ∧ r = toCents m := by
  unfold ofInput at h
  split at h
  · cases h
  · split at h
    · rename_i negative m read
      refine ⟨negative, m, read, ?_⟩
      split at h
      · rename_i zero
        cases h
        exact ⟨fun _ => zero, (spelled_of_zero zero).2.symm⟩
      · split at h
        · cases h
        · rename_i sign
          cases h
          exact ⟨fun wrong => absurd wrong sign, rfl⟩
    · cases h

/-- An accepted rate is zero or the double nearest to a whole number of cents. -/
theorem cents_of_ofInput {raw : String} {r : Magnitude}
    (h : ofInput raw = .ok (some (.finite false r))) :
    r.quanta = 0 ∨ ∃ n, 0 < n ∧ r.RoundedFrom n (-2) := by
  obtain ⟨-, m, -, -, rounded⟩ := exists_of_ofInput h
  rw [toCents_eq] at rounded
  exact (cents_of_ofRatio rounded.symm).imp_right fun own => ⟨_, own⟩

end Rate

end Reroute
