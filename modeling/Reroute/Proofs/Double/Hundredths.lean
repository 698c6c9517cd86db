import Reroute.Proofs.Double.Grid

/-!
# Doubles and whole cents

Below `2 ^ 46` doubles lie so close that at most one whole number of cents rounds to each, and from
there on so far apart that some number of cents does. So only doubles below `2 ^ 46` need more than
two places.

## Main results

* `Magnitude.lt_of_exponent_lt` — what is written with more than two places is below `2 ^ 46`.
* `Magnitude.roundedFrom_inPlaces` — the nearest number of cents rounds back if any does.
-/

namespace Reroute.Magnitude

open Decimal

variable {m : Magnitude} {n : Nat}

/-! ## Distances -/

/-- From `2 ^ 46` on the distance to the next double is at least a sixty-fourth. -/
theorem unit_le_gap (large : 2 ^ 46 * unit ≤ m.quanta) : unit ≤ 2 ^ 6 * m.gap := by
  have less := Nat.lt_of_le_of_lt large m.quanta_lt
  obtain ⟨u, power, -⟩ := exists_unit_eq
  rw [power, gap, ← Nat.pow_add, ← Nat.pow_add, Nat.pow_lt_pow_iff_right (by decide)] at less
  rw [power, gap, ← Nat.pow_add]
  exact Nat.pow_le_pow_right (by decide) (by omega)

/-- Below `2 ^ 46` it is at most half of that. -/
theorem gap_le_unit (small : m.quanta < 2 ^ 46 * unit) : 2 ^ 7 * m.gap ≤ unit := by
  obtain ⟨u, power, value⟩ := exists_unit_eq
  have exponent : 7 + spare m.quanta ≤ u := by
    rcases (spare_spec m.quanta).2 with none | le
    · omega
    · have less := Nat.lt_of_le_of_lt le small
      rw [power, ← Nat.pow_add, ← Nat.pow_add, Nat.pow_lt_pow_iff_right (by decide)] at less
      omega
  rw [power, gap, ← Nat.pow_add]
  exact Nat.pow_le_pow_right (by decide) exponent

/-- The least double of a binade is a whole number if it is large. -/
theorem unit_dvd_of_least (large : 2 ^ 46 * unit ≤ m.quanta) (least : m.quanta = 2 ^ 52 * m.gap) :
    unit ∣ m.quanta := by
  have some := unit_le_gap large
  obtain ⟨u, power, -⟩ := exists_unit_eq
  rw [power, gap, ← Nat.pow_add, Nat.pow_le_pow_iff_right (by decide)] at some
  rw [least, power, gap, ← Nat.pow_add]
  exact Nat.pow_dvd_pow 2 (by omega)

/-! ## Numbers of cents -/

/-- A number of cents rounds to a double if it is nearer to it than to the ends of the interval. -/
theorem roundedFrom_cents_iff : m.RoundedFrom n (-2) ↔
    let lo := 400 * m.quanta - 100 * m.reachDown
    let hi := 400 * m.quanta + 200 * m.gap
    if m.quanta / m.gap % 2 = 0 then lo ≤ 4 * (n * unit) ∧ 4 * (n * unit) ≤ hi
    else lo < 4 * (n * unit) ∧ 4 * (n * unit) < hi := by
  have hundredth : tenNum (-2) = 1 ∧ tenDen (-2) = 100 := ⟨rfl, rfl⟩
  have ends : (4 * m.quanta - m.reachDown) * 100 = 400 * m.quanta - 100 * m.reachDown ∧
      (4 * m.quanta + m.reachUp) * 100 = 400 * m.quanta + 200 * m.gap := by
    unfold reachUp
    omega
  unfold RoundedFrom
  rw [hundredth.1, hundredth.2, ends.1, ends.2, Nat.mul_one, Nat.mul_left_comm]

/-- The whole number of cents that is nearest to a large double rounds to it. -/
theorem roundedFrom_inPlaces_of_le (large : 2 ^ 46 * unit ≤ m.quanta) :
    m.RoundedFrom (m.inPlaces 2) (-2) := by
  have pos := unit_pos
  have wide := unit_le_gap large
  have some := m.gap_pos
  have half := nearest_within_half (a := m.quanta * 10 ^ 2) pos
  have exact : m.quanta = 2 ^ 52 * m.gap →
      nearest (m.quanta * 10 ^ 2) unit * unit = m.quanta * 10 ^ 2 := fun least => by
    have whole : unit ∣ m.quanta * 10 ^ 2 :=
      Nat.dvd_mul_right_of_dvd (unit_dvd_of_least large least) _
    rw [nearest_of_dvd whole, Nat.div_mul_cancel whole]
  rw [roundedFrom_cents_iff, inPlaces]
  generalize nearest (m.quanta * 10 ^ 2) unit * unit = x at *
  have inside : 400 * m.quanta - 100 * m.reachDown < 4 * x := by
    unfold reachDown
    split
    · rename_i least
      have := exact least.2
      omega
    · omega
  dsimp only
  split <;> omega

/-- At most one number of cents rounds to a small double, and it is the nearest one. -/
theorem inPlaces_of_lt (small : m.quanta < 2 ^ 46 * unit) (h : m.RoundedFrom n (-2)) :
    m.inPlaces 2 = n := by
  have pos := unit_pos
  have narrow := gap_le_unit small
  rw [roundedFrom_cents_iff] at h
  have near : m.reachDown ≤ 2 * m.gap := by
    unfold reachDown
    split <;> omega
  have half : 2 * (n * unit) < 2 * (m.quanta * 10 ^ 2) + unit ∧
      2 * (m.quanta * 10 ^ 2) < 2 * (n * unit) + unit := by
    dsimp only at h
    split at h <;> omega
  rw [inPlaces, nearest_eq_iff pos]
  split <;> omega

/-- The number of cents that is nearest to a double rounds to it if any number of cents does. -/
theorem roundedFrom_inPlaces (h : m.RoundedFrom n (-2)) : m.RoundedFrom (m.inPlaces 2) (-2) := by
  rcases Nat.lt_or_ge m.quanta (2 ^ 46 * unit) with small | large
  · rwa [inPlaces_of_lt small h]
  · exact roundedFrom_inPlaces_of_le large

theorem ne_zero_of_exponent_lt (long : m.shortest.exponent < -2) : m.quanta ≠ 0 := fun zero => by
  rw [shortest_of_zero zero] at long
  cases long

/-- Only small doubles are written with more than two places. -/
theorem lt_of_exponent_lt (long : m.shortest.exponent < -2) : m.quanta < 2 ^ 46 * unit := by
  refine Nat.lt_of_not_le fun large => ?_
  have rounds := roundedFrom_inPlaces_of_le large
  have places := le_exponent_of_cents (rounds.pos (ne_zero_of_exponent_lt long)) rounds
  omega

end Reroute.Magnitude
