import Reroute.Proofs.Double.Grid
import Reroute.Proofs.Double.Order
import Reroute.Proofs.Double.Split

/-!
# Whole numbers

Below `2 ^ 53` a whole number is written with its own digits, and above with those of some whole
number. The whole part of a quotient of a double by a whole number is computed without loss,
although the quotient is rounded first, and remainders are exact.

## Main definitions

* `Double.IsWhole` — a double is exactly a whole number.

## Main results

* `Double.IsWhole.positional` — how whole numbers are written.
* `Double.isWhole_floor_div` — the whole part of a quotient.
* `Double.exists_rem` — the remainder of a quotient.
-/

namespace Reroute

namespace Decimal

/-- Zeros at the end multiply by powers of ten. -/
theorem digits_mul_pow {n : Nat} (pos : 0 < n) (k : Nat) :
    digits (n * 10 ^ k) = digits n ++ List.replicate k '0' := by
  induction k with
  | zero => simp
  | succ k ih =>
    have large : 10 ≤ n * 10 ^ k * 10 :=
      Nat.le_mul_of_pos_left 10 (Nat.mul_pos pos (Nat.pow_pos (by decide)))
    have zero : digitChar 0 = '0' := rfl
    rw [Nat.pow_succ, ← Nat.mul_assoc, digits, if_neg (Nat.not_lt.2 large),
      Nat.mul_div_cancel _ (by decide), Nat.mul_mod_left, ih, zero, List.append_assoc,
      List.replicate_succ']

/-- A decimal without places is written as the whole number that it is. -/
theorem Scaled.positional_of_nonneg {x : Scaled} (pos : 0 < x.coefficient)
    (whole : 0 ≤ x.exponent) :
    x.positional = digits (x.coefficient * 10 ^ x.exponent.toNat) := by
  have some : 0 < (digits x.coefficient).length := List.length_pos_iff.2 (digits_ne_nil _)
  have split : x.split = (digits (x.coefficient * 10 ^ x.exponent.toNat), []) := by
    rw [digits_mul_pow pos]
    unfold Scaled.split
    dsimp only
    rw [if_neg (by omega), List.take_of_length_le (by omega), List.drop_of_length_le (by omega)]
    congr 3
    omega
  rw [positional, split]

end Decimal

/-- A number that is finite, not negative, and exactly a whole number. -/
def Double.IsWhole (x : Double) (k : Nat) : Prop :=
  ∃ m, x = .finite false m ∧ m.quanta = k * Magnitude.unit

namespace Magnitude

open Decimal

variable {m : Magnitude} {k d : Nat}

theorem roundedFrom_whole (whole : m.quanta = k * unit) : m.RoundedFrom k 0 := by
  have one : tenNum 0 = 1 ∧ tenDen 0 = 1 := ⟨rfl, rfl⟩
  rw [roundedFrom_iff, one.1, one.2, Nat.mul_one, ← whole, roundQuotient_one m.fits]

/-- The only whole number below `2 ^ 53` that rounds to a whole number is this number itself. -/
theorem eq_of_roundedFrom_whole {n : Nat} (whole : m.quanta = k * unit) (small : k < 2 ^ 53)
    (h : m.RoundedFrom n 0) : n = k := by
  have one : tenNum 0 = 1 ∧ tenDen 0 = 1 := ⟨rfl, rfl⟩
  rw [roundedFrom_iff, one.1, one.2, Nat.mul_one, whole] at h
  rcases Nat.le_total n (2 ^ 53) with few | many
  · rw [roundQuotient_one (fits_mul_unit few)] at h
    exact Nat.eq_of_mul_eq_mul_right unit_pos h
  · let most : Magnitude := ⟨2 ^ 53 * unit, fits_mul_unit (Nat.le_refl _)⟩
    have large : most.quanta ≤ roundQuotient (n * unit) 1 := by
      refine le_roundQuotient Nat.one_pos ?_
      rw [Nat.mul_one]
      exact Nat.mul_le_mul_right unit many
    rw [h] at large
    exact absurd (Nat.le_of_mul_le_mul_right large unit_pos) (Nat.not_le.2 small)

/-- Whole numbers are written as such. -/
theorem positional_whole (whole : m.quanta = k * unit) :
    ∃ j, m.shortest.positional = digits j ∧ (0 < k → 0 < j) ∧ (k < 2 ^ 53 → j = k) := by
  rcases Nat.eq_zero_or_pos k with rfl | pos
  · refine ⟨0, ?_, nofun, fun _ => rfl⟩
    rw [shortest_of_zero (by omega)]
    decide +kernel
  · have hu := unit_pos
    have hm : m.quanta ≠ 0 := by
      rw [whole]
      exact Nat.ne_of_gt (Nat.mul_pos pos hu)
    have least : 0 ≤ m.leading := by
      refine le_leading hm ?_
      rw [whole, show tenNum 0 = 1 from rfl, show tenDen 0 = 1 from rfl]
      have := Nat.le_mul_of_pos_left unit pos
      omega
    obtain ⟨i, j, c, -, places, -, exponent⟩ :=
      shortest_spec_of_roundedFrom hm least (roundedFrom_whole whole)
    have rounds := roundedFrom_shortest hm
    have some := rounds.pos hm
    have nonneg : 0 ≤ m.shortest.exponent := by omega
    refine ⟨_, Scaled.positional_of_nonneg some nonneg, fun _ => ?_, fun small => ?_⟩
    · exact Nat.mul_pos some (Nat.pow_pos (by decide))
    · refine eq_of_roundedFrom_whole whole small ?_
      rwa [roundedFrom_shift, Int.zero_add, Int.toNat_of_nonneg nonneg]

/-! ## Whole parts -/

/-- Large magnitudes are whole numbers. -/
theorem unit_dvd_of_le (m : Magnitude) (large : 2 ^ 53 * unit ≤ m.quanta) : unit ∣ m.quanta := by
  obtain ⟨u, power, -⟩ := exists_unit_eq
  rw [power] at large ⊢
  exact m.dvd_of_binade_le (by omega)

/-- Remainders of magnitudes are magnitudes. -/
theorem fits_mod (m n : Magnitude) : Fits (m.quanta % n.quanta) := by
  refine ⟨?_, Nat.lt_of_le_of_lt (Nat.mod_le ..) m.fits.2⟩
  rcases Nat.eq_zero_or_pos n.quanta with none | pos
  · rw [none, Nat.mod_zero]
    exact m.fits.1
  -- Both are multiples of the smaller one of their distances.
  obtain ⟨s, hm, hn, small⟩ : ∃ s, 2 ^ s ∣ m.quanta ∧ 2 ^ s ∣ n.quanta ∧
      m.quanta % n.quanta < 2 ^ 53 * 2 ^ s := by
    rcases Nat.le_total (spare m.quanta) (spare n.quanta) with less | more
    · refine ⟨spare m.quanta, m.fits.1, Nat.dvd_trans (Nat.pow_dvd_pow 2 less) n.fits.1, ?_⟩
      exact Nat.lt_of_le_of_lt (Nat.mod_le ..) m.quanta_lt
    · refine ⟨spare n.quanta, Nat.dvd_trans (Nat.pow_dvd_pow 2 more) m.fits.1, n.fits.1, ?_⟩
      exact Nat.lt_trans (Nat.mod_lt _ pos) n.quanta_lt
  obtain ⟨k, hk⟩ := (Nat.dvd_mod_iff hn).2 hm
  rw [hk, Nat.mul_comm] at small ⊢
  exact dvd_mul_pow (Nat.le_of_lt (Nat.lt_of_mul_lt_mul_right small))

theorem unit_le_roundQuotient (pos : 0 < d) (large : d ≤ m.quanta / unit) :
    unit ≤ roundQuotient m.quanta d := by
  have one : Fits (1 * unit) := fits_mul_unit (by decide)
  rw [Nat.one_mul] at one
  refine le_roundQuotient (m := ⟨unit, one⟩) pos ?_
  rw [Nat.mul_comm]
  exact (Nat.le_div_iff_mul_le unit_pos).1 large

/-- The whole part of a quotient by a whole number survives the rounding, if the next whole number
times the divisor is exact. -/
theorem roundQuotient_div_unit (pos : 0 < d) (small : m.quanta / unit + d ≤ 2 ^ 53) :
    roundQuotient m.quanta d / unit = m.quanta / unit / d := by
  have hu := unit_pos
  have below : m.quanta / unit / d * d ≤ m.quanta / unit := Nat.div_mul_le_self ..
  have above : m.quanta / unit < (m.quanta / unit / d + 1) * d :=
    Nat.lt_mul_of_div_lt (Nat.lt_succ_self _) pos
  have few : (m.quanta / unit / d + 1) * d ≤ 2 ^ 53 := by
    rw [Nat.succ_mul]
    omega
  rw [Nat.div_lt_iff_lt_mul hu] at above
  rw [Nat.le_div_iff_mul_le hu] at below
  generalize m.quanta / unit / d = k at *
  have many : k + 1 ≤ 2 ^ 53 := Nat.le_trans (Nat.le_mul_of_pos_right _ pos) few
  have product (i : Nat) : i * unit * d = i * d * unit := Nat.mul_right_comm ..
  refine Nat.div_eq_of_lt_le ?_ ?_
  · refine le_roundQuotient (m := ⟨k * unit, fits_mul_unit (by omega)⟩) pos ?_
    rwa [product]
  · refine roundQuotient_lt (n := ⟨(k + 1) * unit, fits_mul_unit many⟩) ?_ ?_ ?_
    · rw [product]
      exact fits_mul_unit few
    · exact Nat.le_mul_of_pos_left unit (Nat.succ_pos k)
    · rwa [product]

end Magnitude

namespace Double

open Magnitude (unit)

variable {x : Double} {k d : Nat}

/-- Comparing with a whole number compares the whole part. -/
theorem finite_lt_ofNat (m : Magnitude) (hk : k ≤ 2 ^ 53) :
    (finite false m).lt (ofNat k) = decide (m.quanta / unit < k) := by
  rw [ofNat_of_le hk, Bool.eq_iff_iff, decide_eq_true_iff, Nat.div_lt_iff_lt_mul Magnitude.unit_pos,
    finite_lt_finite]

theorem IsWhole.positional (h : x.IsWhole k) :
    ∃ j, x.positional = Decimal.digits j ∧ (0 < k → 0 < j) ∧ (k < 2 ^ 53 → j = k) := by
  obtain ⟨m, rfl, whole⟩ := h
  exact Magnitude.positional_whole whole

theorem IsWhole.eqv_zero (h : x.IsWhole k) : x.eqv 0 = decide (k = 0) := by
  obtain ⟨m, rfl, whole⟩ := h
  have zero : (0 : Double) = .finite false .zero := by decide +kernel
  have some : unit ≠ 0 := Nat.ne_of_gt Magnitude.unit_pos
  rw [Bool.eq_iff_iff]
  simp [zero, eqv, key?, Magnitude.zero, whole, some]

/-- Whole parts are exact. -/
theorem isWhole_floor (m : Magnitude) : (floor (.finite false m)).IsWhole (m.quanta / unit) := by
  have fits : Magnitude.Fits (m.quanta / unit * unit) := by
    rcases Nat.le_total (m.quanta / unit) (2 ^ 53) with few | many
    · exact Magnitude.fits_mul_unit few
    · rw [Nat.div_mul_cancel (m.unit_dvd_of_le ((Nat.le_div_iff_mul_le Magnitude.unit_pos).1 many))]
      exact m.fits
  exact ⟨⟨_, fits⟩, ofQuanta_one false ⟨_, fits⟩, rfl⟩

/-- The whole part of a quotient by a whole number is the quotient of whole parts, unless it is so
large that the next whole number may be no double. -/
theorem isWhole_floor_div (m : Magnitude) (some : 3 ≤ d) (hd : d ≤ 2 ^ 53) :
    ∃ k, (((finite false m).div (ofNat d)).floor).IsWhole k ∧
      (d ≤ m.quanta / unit → 0 < k) ∧ (m.quanta / unit + d ≤ 2 ^ 53 → k = m.quanta / unit / d) := by
  obtain ⟨c, quotient, quanta⟩ := exists_div_ofNat false m some hd
  have pos : 0 < d := by omega
  refine ⟨c.quanta / unit, ?_, fun large => ?_, fun small => ?_⟩
  · rw [quotient]
    exact isWhole_floor c
  · rw [quanta]
    exact Nat.div_pos (Magnitude.unit_le_roundQuotient pos large) Magnitude.unit_pos
  · rw [quanta]
    exact Magnitude.roundQuotient_div_unit pos small

/-- The remainder of a quotient by a whole number is exact. -/
theorem exists_rem (m : Magnitude) (pos : 0 < d) (hd : d ≤ 2 ^ 53) :
    ∃ r, (finite false m).rem (ofNat d) = .finite false r ∧
      r.quanta / unit = m.quanta / unit % d := by
  have some : d * unit ≠ 0 := Nat.ne_of_gt (Nat.mul_pos pos Magnitude.unit_pos)
  have fits := Magnitude.fits_mod m ⟨d * unit, Magnitude.fits_mul_unit hd⟩
  refine ⟨⟨_, fits⟩, ?_, Nat.mod_mul_left_div_self ..⟩
  rw [ofNat_of_le hd, rem, if_neg some]
  exact ofQuanta_one false ⟨_, fits⟩

end Double

end Reroute
