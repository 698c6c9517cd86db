import Reroute.Double.Shortest

/-!
# Seventeen digits suffice

The decimal of a magnitude has at most seventeen digits: on their grid the nearest neighbour of the
magnitude rounds back to it, so that the search always succeeds.

## Main results

* `Magnitude.leading_bounds` — `leading` is the exponent of the first digit.
* `Magnitude.roundedFrom_nearest` — the nearest decimal of seventeen digits rounds to `m`.
* `Magnitude.shortest_coefficient_le` — the bound on the digits of the shortest decimal.
-/

namespace Reroute

namespace Decimal

theorem lt_pow_width (n : Nat) : n < 10 ^ width n := by
  unfold width
  fun_induction digits n with
  | case1 n h => simpa using h
  | case2 n h ih =>
    rw [List.length_append, List.length_singleton, Nat.pow_succ]
    omega

theorem pow_width_le {n : Nat} (h : 0 < n) : 10 ^ (width n - 1) ≤ n := by
  unfold width
  fun_induction digits n with
  | case1 n _ => exact h
  | case2 n hn ih =>
    have pos : 0 < (digits (n / 10)).length := List.length_pos_iff.2 (digits_ne_nil _)
    have tenth := ih (by omega)
    rw [List.length_append, List.length_singleton, Nat.add_sub_cancel]
    calc 10 ^ (digits (n / 10)).length
        = 10 ^ ((digits (n / 10)).length - 1) * 10 := by rw [← Nat.pow_succ]; congr 1; omega
      _ ≤ n / 10 * 10 := Nat.mul_le_mul_right 10 tenth
      _ ≤ n := Nat.div_mul_le_self n 10

theorem width_le {n k : Nat} (h : n < 10 ^ k) (hk : 0 < k) : width n ≤ k := by
  rcases Nat.eq_zero_or_pos n with rfl | hn
  · have : width 0 = 1 := by simp [width, digits]
    omega
  · have := (Nat.pow_lt_pow_iff_right (by decide)).1 (Nat.lt_of_le_of_lt (pow_width_le hn) h)
    omega

theorem tenNum_pos (k : Int) : 0 < tenNum k := Nat.pow_pos (by decide)

theorem tenDen_pos (k : Int) : 0 < tenDen k := Nat.pow_pos (by decide)

/-- Both quotients stand for the same power of ten. -/
theorem tenNum_mul (i j : Nat) (k : Int) (h : k = i - j) :
    tenNum k * 10 ^ j = tenDen k * 10 ^ i := by
  unfold tenNum tenDen
  rw [← Nat.pow_add, ← Nat.pow_add]
  congr 1
  omega

/-- Lowering a power of ten by `i` places. -/
theorem tenNum_mul_tenDen_sub (k : Int) (i : Nat) :
    tenNum k * tenDen (k - i) = tenNum (k - i) * tenDen k * 10 ^ i := by
  unfold tenNum tenDen
  rw [← Nat.pow_add, ← Nat.pow_add, ← Nat.pow_add]
  congr 1
  omega

theorem Scaled.trim_coefficient_le (fuel : Nat) (x : Scaled) :
    (x.trim fuel).coefficient ≤ x.coefficient := by
  fun_induction Scaled.trim fuel x with
  | case1 x => exact Nat.le_refl _
  | case2 fuel x h ih => exact Nat.le_trans ih (Nat.div_le_self ..)
  | case3 fuel x h => exact Nat.le_refl _

end Decimal

namespace Magnitude

open Decimal

/-! ## The first digit -/

theorem unit_le : unit ≤ 10 ^ 324 := by unfold unit; decide +kernel

/-- The first digit of a magnitude, as two bounds on `m / 10 ^ leading`. -/
theorem leading_bounds {m : Magnitude} (hm : m.quanta ≠ 0) :
    unit * tenNum m.leading ≤ m.quanta * tenDen m.leading ∧
      m.quanta * tenDen m.leading < unit * tenNum m.leading * 10 := by
  have hu := unit_pos
  have hq : 10 ^ 324 ≤ m.quanta * 10 ^ 324 := Nat.le_mul_of_pos_left _ (by omega)
  obtain ⟨N, hN⟩ : ∃ N, m.quanta * 10 ^ 324 / unit = N := ⟨_, rfl⟩
  have pos : 0 < N := hN ▸ Nat.div_pos (Nat.le_trans unit_le hq) hu
  have below : 10 ^ (width N - 1) * unit ≤ m.quanta * 10 ^ 324 :=
    Nat.le_trans (Nat.mul_le_mul_right unit (pow_width_le pos)) (hN ▸ Nat.div_mul_le_self ..)
  have above : m.quanta * 10 ^ 324 < 10 ^ (width N - 1) * 10 * unit := by
    rw [← Nat.pow_succ, ← Nat.div_lt_iff_lt_mul hu, hN]
    exact Nat.lt_of_lt_of_le (lt_pow_width N) (Nat.pow_le_pow_right (by decide) (by omega))
  have width_pos : 0 < width N := List.length_pos_iff.2 (digits_ne_nil N)
  have ten := tenNum_mul (width N - 1) 324 m.leading (by unfold leading; rw [hN]; omega)
  have hd := tenDen_pos m.leading
  generalize tenNum m.leading = p at *
  generalize tenDen m.leading = r at *
  generalize (10 : Nat) ^ (width N - 1) = w at *
  have hc := Nat.pow_pos (n := 324) (show 0 < 10 by decide)
  generalize (10 : Nat) ^ 324 = c at *
  generalize m.quanta = q at *
  generalize unit = u at *
  constructor
  · refine Nat.le_of_mul_le_mul_right (c := c) ?_ hc
    calc u * p * c = w * u * r := by rw [Nat.mul_assoc, ten]; ac_rfl
      _ ≤ q * c * r := Nat.mul_le_mul_right r below
      _ = q * r * c := by ac_rfl
  · refine Nat.lt_of_mul_lt_mul_right (a := c) ?_
    calc q * r * c = q * c * r := by ac_rfl
      _ < w * 10 * u * r := Nat.mul_lt_mul_of_pos_right above hd
      _ = u * p * 10 * c := by rw [show u * p * 10 * c = u * (p * c) * 10 by ac_rfl, ten]; ac_rfl

/-- From a power of ten on the first digit is not behind its place. -/
theorem le_leading {m : Magnitude} (hm : m.quanta ≠ 0) {e : Int}
    (low : unit * tenNum e ≤ m.quanta * tenDen e) : e ≤ m.leading := by
  obtain ⟨-, above⟩ := leading_bounds hm
  refine Int.le_of_not_gt fun less => ?_
  obtain ⟨i, hi⟩ : ∃ i : Nat, m.leading = e - (i + 1 : Nat) := ⟨(e - m.leading - 1).toNat, by omega⟩
  have shift := tenNum_mul_tenDen_sub e (i + 1)
  rw [← hi] at shift
  have ten : tenNum m.leading * tenDen e * 10 ≤ tenNum e * tenDen m.leading := by
    rw [shift]
    exact Nat.mul_le_mul_left _ (Nat.le_self_pow (Nat.succ_ne_zero i) 10)
  refine Nat.lt_irrefl (unit * tenNum e * tenDen m.leading) ?_
  calc unit * tenNum e * tenDen m.leading
      ≤ m.quanta * tenDen e * tenDen m.leading := Nat.mul_le_mul_right _ low
    _ = m.quanta * tenDen m.leading * tenDen e := Nat.mul_right_comm ..
    _ < unit * tenNum m.leading * 10 * tenDen e := Nat.mul_lt_mul_of_pos_right above (tenDen_pos e)
    _ = unit * (tenNum m.leading * tenDen e * 10) := by ac_rfl
    _ ≤ unit * (tenNum e * tenDen m.leading) := Nat.mul_le_mul_left unit ten
    _ = unit * tenNum e * tenDen m.leading := (Nat.mul_assoc ..).symm

/-! ## Digits on a grid -/

/-- On the grid of `10 ^ (leading - i)` a magnitude has at most `i + 1` digits. -/
theorem grid_lt {m : Magnitude} (hm : m.quanta ≠ 0) (i : Nat) :
    m.quanta * tenDen (m.leading - i) / (unit * tenNum (m.leading - i)) < 10 ^ (i + 1) := by
  have shift := tenNum_mul_tenDen_sub m.leading i
  have above := (leading_bounds hm).2
  have hu := Nat.mul_pos unit_pos (tenNum_pos (m.leading - i))
  rw [Nat.div_lt_iff_lt_mul hu]
  have hd := tenDen_pos (m.leading - i)
  generalize tenNum m.leading = p at *
  generalize tenDen m.leading = r at *
  generalize tenNum (m.leading - i) = p' at *
  generalize tenDen (m.leading - i) = r' at *
  refine Nat.lt_of_mul_lt_mul_right (a := r) ?_
  calc m.quanta * r' * r = m.quanta * r * r' := by ac_rfl
    _ < unit * p * 10 * r' := Nat.mul_lt_mul_of_pos_right above hd
    _ = unit * (p * r') * 10 := by ac_rfl
    _ = 10 ^ (i + 1) * (unit * p') * r := by rw [shift, Nat.pow_succ]; ac_rfl

theorem coefficient_onGrid?_le {m : Magnitude} (hm : m.quanta ≠ 0) (i : Nat) {x : Scaled}
    (h : m.onGrid? (m.leading - i) = some x) : x.coefficient ≤ 10 ^ (i + 1) := by
  have hlt := grid_lt hm i
  have hnear := nearest_le (m.quanta * tenDen (m.leading - i)) (unit * tenNum (m.leading - i))
  unfold onGrid? at h
  generalize m.quanta * tenDen (m.leading - i) = a at *
  generalize unit * tenNum (m.leading - i) = b at *
  have hfar : (if nearest a b = a / b then nearest a b + 1 else a / b) ≤ a / b + 1 := by
    split <;> omega
  dsimp only at h
  generalize (if nearest a b = a / b then nearest a b + 1 else a / b) = far at *
  split at h
  · cases h; exact Nat.le_trans hnear hlt
  · split at h
    · cases h; exact Nat.le_trans hfar hlt
    · cases h

/-! ## Distances between neighbours -/

theorem quanta_lt (m : Magnitude) : m.quanta < 2 ^ 53 * m.gap := by
  have := div_pow_spare_lt m.quanta
  rwa [Nat.div_lt_iff_lt_mul (Nat.two_pow_pos _)] at this

/-- When `m` is at most `2 ^ 52 * g`, a grid of seventeen digits is finer than half of `g`. -/
theorem grid_lt_of_le {m : Magnitude} (hm : m.quanta ≠ 0) {k : Int}
    (hk : k = m.leading - (16 : Nat)) {g : Nat} (hg : 0 < g) (h : m.quanta ≤ 2 ^ 52 * g) :
    2 * (unit * tenNum k) < g * tenDen k := by
  have shift := hk ▸ tenNum_mul_tenDen_sub m.leading 16
  have below := (leading_bounds hm).1
  have hd := tenDen_pos m.leading
  have hd' := tenDen_pos k
  generalize tenNum m.leading = p at *
  generalize tenDen m.leading = r at *
  generalize tenNum k = p' at *
  generalize tenDen k = r' at *
  refine Nat.lt_of_mul_lt_mul_right (a := r * 10 ^ 16) ?_
  calc 2 * (unit * p') * (r * 10 ^ 16) = 2 * (unit * (p' * r * 10 ^ 16)) := by ac_rfl
    _ = 2 * (unit * p) * r' := by rw [← shift]; ac_rfl
    _ ≤ 2 * (m.quanta * r) * r' := Nat.mul_le_mul_right _ (Nat.mul_le_mul_left 2 below)
    _ ≤ 2 * (2 ^ 52 * g * r) * r' :=
      Nat.mul_le_mul_right _ (Nat.mul_le_mul_left 2 (Nat.mul_le_mul_right _ h))
    _ = 2 ^ 53 * (g * r' * r) := by rw [show (2 : Nat) ^ 53 = 2 * 2 ^ 52 from rfl]; ac_rfl
    _ < 10 ^ 16 * (g * r' * r) :=
      Nat.mul_lt_mul_of_pos_right (by decide) (Nat.mul_pos (Nat.mul_pos hg hd') hd)
    _ = g * r' * (r * 10 ^ 16) := by ac_rfl

theorem gap_pos (m : Magnitude) : 0 < m.gap := Nat.two_pow_pos _

theorem gap_le {m : Magnitude} (hm : m.quanta ≠ 0) : m.gap ≤ m.quanta :=
  Nat.le_of_dvd (by omega) m.fits.1

/-! ## The search -/

/-- Seventeen digits suffice: the nearest decimal on their grid rounds to `m`. -/
theorem roundedFrom_nearest {m : Magnitude} (hm : m.quanta ≠ 0) {k : Int}
    (hk : k = m.leading - (16 : Nat)) :
    RoundedFrom m (nearest (m.quanta * tenDen k) (unit * tenNum k)) k := by
  have hq := m.quanta_lt
  have hg := m.gap_pos
  have up : 2 * (unit * tenNum k) < m.reachUp * tenDen k :=
    grid_lt_of_le hm hk (by unfold reachUp; omega) (by unfold reachUp; omega)
  have down : 2 * (unit * tenNum k) < m.reachDown * tenDen k := by
    refine grid_lt_of_le hm hk ?_ ?_ <;> (unfold reachDown; split <;> omega)
  have inside : m.reachDown * tenDen k < 4 * (m.quanta * tenDen k) := by
    rw [← Nat.mul_assoc]
    refine Nat.mul_lt_mul_of_pos_right ?_ (tenDen_pos k)
    have := gap_le hm
    unfold reachDown
    split <;> omega
  have half := nearest_within_half (a := m.quanta * tenDen k) (Nat.mul_pos unit_pos (tenNum_pos k))
  unfold RoundedFrom
  generalize nearest (m.quanta * tenDen k) (unit * tenNum k) = n at *
  have hx : n * tenNum k * (4 * unit) = 4 * (n * (unit * tenNum k)) := by ac_rfl
  have hlo : (4 * m.quanta - m.reachDown) * tenDen k =
      4 * (m.quanta * tenDen k) - m.reachDown * tenDen k := by
    rw [Nat.sub_mul, Nat.mul_assoc]
  have hhi : (4 * m.quanta + m.reachUp) * tenDen k =
      4 * (m.quanta * tenDen k) + m.reachUp * tenDen k := by
    rw [Nat.add_mul, Nat.mul_assoc]
  simp only [hx, hlo, hhi]
  generalize n * (unit * tenNum k) = x at *
  generalize unit * tenNum k = b at *
  split <;> omega

theorem isSome_onGrid? {m : Magnitude} (hm : m.quanta ≠ 0) :
    (m.onGrid? (m.leading - (16 : Nat))).isSome := by
  unfold onGrid?
  dsimp only
  rw [if_pos (roundedFrom_nearest hm rfl)]
  rfl

theorem shortest_coefficient_le (m : Magnitude) : m.shortest.coefficient ≤ 10 ^ 17 := by
  unfold shortest
  split
  · simp
  · rename_i hm
    refine Nat.le_trans (Scaled.trim_coefficient_le ..) ?_
    have found : ((List.range 17).findSome? fun (i : Nat) => m.onGrid? (m.leading - i)).isSome := by
      rw [List.findSome?_isSome_iff]
      exact ⟨16, by simp, isSome_onGrid? hm⟩
    obtain ⟨x, hx⟩ := Option.isSome_iff_exists.1 found
    rw [hx, Option.getD_some]
    obtain ⟨i, hi, hx⟩ := List.exists_of_findSome?_eq_some hx
    have := List.mem_range.1 hi
    exact Nat.le_trans (coefficient_onGrid?_le hm i hx)
      (Nat.pow_le_pow_right (by decide) (by omega))

end Magnitude

end Reroute
