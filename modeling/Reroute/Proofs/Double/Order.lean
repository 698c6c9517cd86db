import Reroute.Proofs.Double.Nearest

/-!
# Rounding keeps the order

What is not below a magnitude is not rounded below it. What is below it is rounded to it only from
within half the distance to its neighbour, and a quotient of a magnitude by a whole number does not
come as near: so the whole part of the quotient survives the rounding.

## Main results

* `Magnitude.le_roundQuotient`, `Magnitude.roundQuotient_le_quanta` — rounding keeps the order.
* `Magnitude.roundQuotient_lt_of_far` — what is far enough below a magnitude stays below it.
* `Magnitude.roundQuotient_lt`, `Double.ofNat_le_div_iff` — so does a quotient by a whole number.
-/

namespace Reroute

namespace Magnitude

variable {m n : Magnitude} {a b d : Nat}

theorem le_roundQuotient (hb : 0 < b) (h : m.quanta * b ≤ a) : m.quanta ≤ roundQuotient a b := by
  have near := roundQuotient_le_distance a hb m
  refine Nat.le_of_mul_le_mul_right ?_ hb
  generalize m.quanta * b = x at *
  generalize roundQuotient a b * b = y at *
  rw [abs_le, neg_le, abs_of_nonpos (by omega)] at near
  omega

theorem roundQuotient_le_quanta (hb : 0 < b) (h : a ≤ m.quanta * b) :
    roundQuotient a b ≤ m.quanta := by
  have near := roundQuotient_le_distance a hb m
  refine Nat.le_of_mul_le_mul_right ?_ hb
  generalize m.quanta * b = x at *
  generalize roundQuotient a b * b = y at *
  rw [abs_le, abs_of_nonneg (by omega)] at near
  omega

/-- What is below the middle between a magnitude and the one below it is not rounded up to it. -/
theorem roundQuotient_lt_of_far (hb : 0 < b) (far : 4 * a + m.reachDown * b < 4 * (m.quanta * b)) :
    roundQuotient a b < m.quanta := by
  refine Nat.lt_of_le_of_ne (roundQuotient_le_quanta hb (by omega)) fun rounded => ?_
  have reaches := (roundQuotient_eq_iff hb).1 rounded
  have low : (4 * m.quanta - m.reachDown) * b ≤ 4 * a := by
    unfold Reaches at reaches
    split at reaches <;> omega
  rw [Nat.sub_mul, Nat.mul_assoc] at low
  omega

/-! ## Quotients by whole numbers -/

theorem add_le_of_dvd {g x y : Nat} (hx : g ∣ x) (hy : g ∣ y) (h : x < y) : x + g ≤ y := by
  have := Nat.le_of_dvd (Nat.sub_pos_of_lt h) (Nat.dvd_sub hy hx)
  omega

theorem reachDown_le (m : Magnitude) : m.reachDown ≤ 2 * m.gap := by
  unfold reachDown
  split <;> omega

/-- Two magnitudes are at least twice as far apart as the middle between neighbours. -/
theorem add_reachDown_le (h : m.quanta < n.quanta) :
    4 * m.quanta + 2 * n.reachDown ≤ 4 * n.quanta := by
  have steps : n.gap ∣ n.quanta := n.fits.1
  unfold reachDown
  split
  · -- Below the least number of a binade the distances are half as wide.
    rename_i least
    have some : spare n.quanta ≠ 0 := fun none => by simp [gap, none] at least
    obtain ⟨s, hs⟩ : ∃ s, spare n.quanta = s + 1 := ⟨spare n.quanta - 1, by omega⟩
    have double : n.gap = 2 * 2 ^ s := by rw [gap, hs, Nat.pow_succ, Nat.mul_comm]
    by_cases large : 2 ^ 52 * 2 ^ s ≤ m.quanta
    · have part : 2 ^ s ∣ n.gap := by
        rw [double]
        exact Nat.dvd_mul_left ..
      have half : 2 ^ s ∣ n.quanta := Nat.dvd_trans part steps
      have := add_le_of_dvd (m.dvd_of_binade_le large) half h
      omega
    · omega
  · rename_i other
    by_cases large : 2 ^ 52 * n.gap ≤ m.quanta
    · have := add_le_of_dvd (m.dvd_of_binade_le large) steps h
      change m.quanta + n.gap ≤ n.quanta at this
      omega
    · rcases (spare_spec n.quanta).2 with none | normal
      · have one : n.gap = 1 := by rw [gap, none, Nat.pow_zero]
        omega
      · change 2 ^ 52 * n.gap ≤ n.quanta at normal
        by_cases one : n.gap = 1
        · omega
        · have pos := n.gap_pos
          have more : 2 ^ 52 * n.gap < n.quanta := by omega
          have := add_le_of_dvd (Nat.dvd_mul_left ..) steps more
          omega

/-- From one on the distances between magnitudes are those of the binades. -/
theorem normal_of_unit_le (h : unit ≤ m.quanta) : 1 < m.gap ∧ 2 ^ 52 * m.gap ≤ m.quanta := by
  obtain ⟨lt, le⟩ := spare_spec m.quanta
  obtain ⟨u, power, value⟩ := exists_unit_eq
  have some : spare m.quanta ≠ 0 := fun none => by
    rw [none, Nat.pow_zero, Nat.mul_one] at lt
    rw [power] at h
    have := (Nat.pow_lt_pow_iff_right (by decide)).1 (Nat.lt_of_le_of_lt h lt)
    omega
  exact ⟨Nat.one_lt_two_pow some, le.resolve_left some⟩

/-- The quotient of a magnitude by a whole number is not rounded up to a magnitude, if the product
of both is a magnitude. -/
theorem roundQuotient_lt (fits : Fits (n.quanta * d)) (one : unit ≤ n.quanta)
    (h : m.quanta < n.quanta * d) : roundQuotient m.quanta d < n.quanta := by
  let p : Magnitude := ⟨n.quanta * d, fits⟩
  have hd : 0 < d := Nat.pos_of_ne_zero fun none => by simp [none] at h
  have product : p.quanta = n.quanta * d := rfl
  refine roundQuotient_lt_of_far hd ?_
  -- The distance below the product is more than `d` times the middle below the factor.
  suffices n.reachDown * d < 2 * p.reachDown by
    have := add_reachDown_le (n := p) h
    omega
  obtain ⟨some, normal⟩ := normal_of_unit_le one
  have below : 2 ^ 52 * (n.gap * d) ≤ p.quanta := by
    rw [product, ← Nat.mul_assoc]
    exact Nat.mul_le_mul_right d normal
  have most := p.quanta_lt
  have pos := Nat.mul_pos n.gap_pos hd
  unfold reachDown
  split
  · split <;> omega
  · rename_i other
    have more : 2 ^ 52 * (n.gap * d) < p.quanta := by
      rw [product, ← Nat.mul_assoc]
      refine Nat.mul_lt_mul_of_pos_right (Nat.lt_of_le_of_ne normal fun least => ?_) hd
      exact other ⟨some, least.symm⟩
    rw [Nat.mul_assoc]
    split <;> omega

end Magnitude

/-! ## Doubles -/

namespace Double

open Magnitude (unit bound)

theorem finite_le_finite (m n : Magnitude) :
    le (.finite false m) (.finite false n) = true ↔ m.quanta ≤ n.quanta := by
  simp [le, key?]

theorem finite_lt_finite (m n : Magnitude) :
    lt (.finite false m) (.finite false n) = true ↔ m.quanta < n.quanta := by
  simp [lt, key?]

/-- What is too large is not below any whole number, nor is a part of it. -/
theorem ofNat_le_infinite_div {k d : Nat} (hk : k ≤ 2 ^ 53) (hd : d ≤ 2 ^ 53) :
    le (ofNat k) ((infinite false).div (ofNat d)) = true := by
  have fits := Magnitude.fits_mul_unit hk
  have below : ((k * unit : Nat) : Int) ≤ bound := Int.ofNat_le.2 (Nat.le_of_lt fits.2)
  rw [ofNat_of_le hk, ofNat_of_le hd]
  simpa [le, key?, div] using below

/-- A quotient by a whole number reaches another one exactly if it is rounded so. -/
theorem ofNat_le_div_iff {m : Magnitude} {k d : Nat} (pos : 0 < k) (some : 3 ≤ d)
    (small : k * d ≤ 2 ^ 53) :
    le (ofNat k) ((finite false m).div (ofNat d)) = true ↔ k * d * unit ≤ m.quanta := by
  have hk : k ≤ 2 ^ 53 := Nat.le_trans (Nat.le_mul_of_pos_right k (by omega)) small
  have hd : d ≤ 2 ^ 53 := Nat.le_trans (Nat.le_mul_of_pos_left d pos) small
  let n : Magnitude := ⟨k * unit, Magnitude.fits_mul_unit hk⟩
  have product : n.quanta * d = k * d * unit := Nat.mul_right_comm ..
  obtain ⟨c, quotient, rounded⟩ := exists_div_ofNat false m some hd
  rw [quotient, ofNat_of_le hk, finite_le_finite, rounded]
  constructor
  · intro reached
    refine Nat.le_of_not_lt fun less => Nat.not_lt.2 reached ?_
    rw [← product] at less
    refine Magnitude.roundQuotient_lt ?_ (Nat.le_mul_of_pos_left unit pos) less
    rw [product]
    exact Magnitude.fits_mul_unit small
  · intro le
    rw [← product] at le
    exact Magnitude.le_roundQuotient (by omega) le

end Double

end Reroute
