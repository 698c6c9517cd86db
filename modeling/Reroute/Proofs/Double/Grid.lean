import Reroute.Double.Text
import Reroute.Proofs.Double.Rounding

/-!
# The digits of the shortest decimal

The search for the shortest decimal succeeds on every grid with a point that rounds to the
magnitude. So a magnitude to which some decimal with few places rounds is written with few places,
and with few digits if it is small.

## Main results

* `Magnitude.isSome_onGrid?_of_roundedFrom` — a neighbour on the grid rounds back if any point does.
* `Magnitude.shortest_spec`, `Magnitude.roundedFrom_shortest` — the shortest decimal is on the first
  such grid, and rounds to the magnitude.
* `Magnitude.le_exponent_of_cents`, `Magnitude.digits_of_cents` — the shortest decimals of whole
  cents.
-/

namespace Reroute

namespace Decimal

open Scaled

/-- Trailing zeros go into the exponent. -/
theorem Scaled.trim_spec (fuel : Nat) (x : Scaled) :
    ∃ j : Nat, (x.trim fuel).coefficient * 10 ^ j = x.coefficient ∧
      (x.trim fuel).exponent = x.exponent + j := by
  fun_induction Scaled.trim fuel x with
  | case1 x => exact ⟨0, by simp, by simp⟩
  | case2 fuel x h ih =>
    obtain ⟨j, coefficient, exponent⟩ := ih
    refine ⟨j + 1, ?_, by rw [exponent]; push_cast; omega⟩
    rw [Nat.pow_succ, ← Nat.mul_assoc, coefficient]
    exact Nat.div_mul_cancel (Nat.dvd_of_mod_eq_zero h.2)
  | case3 fuel x h => exact ⟨0, by simp, by simp⟩

end Decimal

namespace Magnitude

open Decimal

section Grid

variable {m : Magnitude} {d : Nat} {k : Int}

/-- Moving zeros between the digits and the exponent changes nothing. -/
theorem roundedFrom_shift (j : Nat) : m.RoundedFrom (d * 10 ^ j) k ↔ m.RoundedFrom d (k + j) := by
  have shift := tenNum_mul_tenDen_sub (k + j) j
  rw [Int.add_sub_cancel] at shift
  rw [roundedFrom_iff, roundedFrom_iff]
  have same : d * 10 ^ j * tenNum k * unit * tenDen (k + j) =
      d * tenNum (k + j) * unit * tenDen k := by
    calc d * 10 ^ j * tenNum k * unit * tenDen (k + j)
        = d * unit * (tenNum k * tenDen (k + j) * 10 ^ j) := by ac_rfl
      _ = d * tenNum (k + j) * unit * tenDen k := by rw [← shift]; ac_rfl
  rw [roundQuotient_congr (tenDen_pos k) (tenDen_pos (k + j)) same]

/-- What rounds to a magnitude lies between the middles to its neighbours. -/
theorem RoundedFrom.between (h : m.RoundedFrom d k) :
    (4 * m.quanta - m.reachDown) * tenDen k ≤ d * tenNum k * (4 * unit) ∧
      d * tenNum k * (4 * unit) ≤ (4 * m.quanta + m.reachUp) * tenDen k := by
  unfold RoundedFrom at h
  split at h
  · exact h
  · exact ⟨Nat.le_of_lt h.1, Nat.le_of_lt h.2⟩

/-- Zero rounds to no other magnitude. -/
theorem RoundedFrom.pos (h : m.RoundedFrom d k) (hm : m.quanta ≠ 0) : 0 < d := by
  refine Nat.pos_of_ne_zero fun none => hm ?_
  rw [roundedFrom_iff, none, Nat.zero_mul, Nat.zero_mul] at h
  rw [← h, roundQuotient, nearest_of_dvd (Nat.dvd_zero _), Nat.zero_div, Nat.zero_mul]

/-- Between a decimal that rounds to a magnitude and the magnitude itself, all do. -/
theorem RoundedFrom.toward (h : m.RoundedFrom d k) (hm : m.quanta ≠ 0) {e : Nat}
    (between : d ≤ e ∧ e * (unit * tenNum k) ≤ m.quanta * tenDen k ∨
      e ≤ d ∧ m.quanta * tenDen k ≤ e * (unit * tenNum k)) : m.RoundedFrom e k := by
  have down : 0 < m.reachDown * tenDen k := by
    refine Nat.mul_pos ?_ (tenDen_pos k)
    have := m.gap_pos
    unfold reachDown
    split <;> omega
  have up : 0 < m.reachUp * tenDen k := Nat.mul_pos (by have := m.gap_pos; unfold reachUp; omega)
    (tenDen_pos k)
  have some : 0 < m.quanta * tenDen k := Nat.mul_pos (Nat.pos_of_ne_zero hm) (tenDen_pos k)
  have grown : d ≤ e → d * (unit * tenNum k) ≤ e * (unit * tenNum k) := Nat.mul_le_mul_right _
  have shrunk : e ≤ d → e * (unit * tenNum k) ≤ d * (unit * tenNum k) := Nat.mul_le_mul_right _
  have point (n : Nat) : n * tenNum k * (4 * unit) = 4 * (n * (unit * tenNum k)) := by ac_rfl
  unfold RoundedFrom at h ⊢
  simp only [point, Nat.sub_mul, Nat.add_mul, Nat.mul_assoc 4] at h ⊢
  generalize m.quanta * tenDen k = q at *
  generalize d * (unit * tenNum k) = x at *
  generalize e * (unit * tenNum k) = y at *
  split at h <;> rename_i parity
  · rw [if_pos parity]
    omega
  · rw [if_neg parity]
    omega

/-- On a grid with a point that rounds to a magnitude one of its neighbours does. -/
theorem isSome_onGrid?_of_roundedFrom (hm : m.quanta ≠ 0) (h : m.RoundedFrom d k) :
    (m.onGrid? k).isSome := by
  have step : 0 < unit * tenNum k := Nat.mul_pos unit_pos (tenNum_pos k)
  have near := nearest_le (m.quanta * tenDen k) (unit * tenNum k)
  have near' := le_nearest (m.quanta * tenDen k) (unit * tenNum k)
  have below := Nat.div_mul_le_self (m.quanta * tenDen k) (unit * tenNum k)
  have above : m.quanta * tenDen k <
      (m.quanta * tenDen k / (unit * tenNum k) + 1) * (unit * tenNum k) :=
    Nat.lt_mul_of_div_lt (Nat.lt_succ_self _) step
  unfold onGrid?
  dsimp only
  generalize m.quanta * tenDen k / (unit * tenNum k) = f at *
  generalize nearest (m.quanta * tenDen k) (unit * tenNum k) = n at *
  have neighbour : m.RoundedFrom f k ∨ m.RoundedFrom (f + 1) k := by
    rcases Nat.lt_or_ge f d with greater | less
    · exact .inr (h.toward hm (.inr ⟨greater, Nat.le_of_lt above⟩))
    · exact .inl (h.toward hm (.inl ⟨less, below⟩))
  have tried : m.RoundedFrom n k ∨ m.RoundedFrom (if n = f then n + 1 else f) k := by
    have either : n = f ∨ n = f + 1 := by omega
    rcases either with rfl | rfl
    · rwa [if_pos rfl]
    · rw [if_neg (by omega)]
      exact neighbour.symm
  split
  · rfl
  · rename_i missed
    rw [if_pos (tried.resolve_left missed)]
    rfl

/-- What the search finds on a grid is a point of it that rounds back. -/
theorem roundedFrom_of_onGrid? {x : Scaled} (h : m.onGrid? k = some x) :
    x.exponent = k ∧ m.RoundedFrom x.coefficient k := by
  unfold onGrid? at h
  generalize m.quanta * tenDen k = a at *
  generalize unit * tenNum k = b at *
  dsimp only at h
  generalize (if nearest a b = a / b then nearest a b + 1 else a / b) = far at *
  split at h
  · cases h
    exact ⟨rfl, ‹_›⟩
  · split at h
    · cases h
      exact ⟨rfl, ‹_›⟩
    · cases h

end Grid

/-! ## The shortest decimal -/

theorem shortest_of_zero {m : Magnitude} (zero : m.quanta = 0) : m.shortest = ⟨0, 0⟩ := if_pos zero

/-- The shortest decimal is a point of the first grid that has one, with its trailing zeros moved
into the exponent. -/
theorem shortest_spec {m : Magnitude} (hm : m.quanta ≠ 0) :
    ∃ (i j c : Nat), m.onGrid? (m.leading - i) = some ⟨c, m.leading - i⟩ ∧
      (∀ l < i, m.onGrid? (m.leading - l) = none) ∧
      m.shortest.coefficient * 10 ^ j = c ∧ m.shortest.exponent = m.leading - i + j := by
  have found : ((List.range 17).findSome? fun (i : Nat) => m.onGrid? (m.leading - i)).isSome := by
    rw [List.findSome?_isSome_iff]
    exact ⟨16, by simp, isSome_onGrid? hm⟩
  obtain ⟨x, hx⟩ := Option.isSome_iff_exists.1 found
  obtain ⟨ls, i, rest, range, first, none⟩ := List.findSome?_eq_some_iff.1 hx
  obtain ⟨exponent, -⟩ := roundedFrom_of_onGrid? first
  obtain ⟨j, coefficient, raised⟩ := Scaled.trim_spec 17 x
  have shortest : m.shortest = x.trim 17 := by
    unfold shortest
    rw [if_neg hm, hx]
    rfl
  have ordered := List.pairwise_lt_range (n := 17)
  rw [range] at ordered
  have member (l : Nat) : l < 17 ↔ l ∈ ls ++ i :: rest := by rw [← range, List.mem_range]
  have bound : i < 17 := (member i).2 (by simp)
  refine ⟨i, j, x.coefficient, ?_, fun l less => none l ?_, ?_, ?_⟩
  · rw [first, ← exponent]
  · rcases List.mem_append.1 ((member l).1 (by omega)) with before | after
    · exact before
    · obtain ⟨-, sorted, -⟩ := List.pairwise_append.1 ordered
      rcases List.mem_cons.1 after with rfl | after
      · omega
      · have := (List.pairwise_cons.1 sorted).1 l after
        omega
  · rw [shortest, coefficient]
  · rw [shortest, raised, exponent]

/-- The search does not go on below a grid with a point that rounds to the magnitude. -/
theorem shortest_spec_of_roundedFrom {m : Magnitude} (hm : m.quanta ≠ 0) {n : Nat} {e : Int}
    (least : e ≤ m.leading) (h : m.RoundedFrom n e) :
    ∃ (i j c : Nat), m.onGrid? (m.leading - i) = some ⟨c, m.leading - i⟩ ∧ e ≤ m.leading - i ∧
      m.shortest.coefficient * 10 ^ j = c ∧ m.shortest.exponent = m.leading - i + j := by
  obtain ⟨i, j, c, first, none, digits⟩ := shortest_spec hm
  refine ⟨i, j, c, first, ?_, digits⟩
  have places : i ≤ (m.leading - e).toNat := by
    refine Nat.le_of_not_lt fun late => ?_
    have found := isSome_onGrid?_of_roundedFrom hm h
    have grid : m.leading - (m.leading - e).toNat = e := by omega
    rw [← grid, none _ late] at found
    cases found
  omega

/-- The shortest decimal rounds to the magnitude. -/
theorem roundedFrom_shortest {m : Magnitude} (hm : m.quanta ≠ 0) :
    m.RoundedFrom m.shortest.coefficient m.shortest.exponent := by
  obtain ⟨i, j, c, first, -, coefficient, exponent⟩ := shortest_spec hm
  rw [exponent, ← roundedFrom_shift, coefficient]
  exact (roundedFrom_of_onGrid? first).2

/-! ## Whole cents -/

section Cents

variable {m : Magnitude} {n : Nat}

/-- The double nearest to a cent is not below it, and the others that are nearest to whole numbers
of cents are far above. -/
theorem unit_le_of_cents (pos : 0 < n) (h : m.RoundedFrom n (-2)) : unit ≤ 100 * m.quanta := by
  have cent : unit ≤ 100 * roundQuotient (1 * tenNum (-2) * unit) (tenDen (-2)) := by
    unfold unit
    decide +kernel
  by_cases one : n = 1
  · subst one
    rwa [roundedFrom_iff.1 h] at cent
  · have upper : n * 1 * (4 * unit) ≤ (4 * m.quanta + m.reachUp) * 100 := h.between.2
    have most : 2 * 1 * (4 * unit) ≤ n * 1 * (4 * unit) :=
      Nat.mul_le_mul_right _ (Nat.mul_le_mul_right 1 (by omega))
    have many : 1000 ≤ unit := by
      unfold unit
      decide +kernel
    have gap : m.gap ≤ m.quanta + 1 := by
      by_cases none : m.quanta = 0
      · simp [gap, none, spare]
      · exact Nat.le_succ_of_le (gap_le none)
    unfold reachUp at upper
    omega

/-- Amounts from a cent on have their first digit before the third place. -/
theorem le_leading_of_cents (low : unit ≤ 100 * m.quanta) : -2 ≤ m.leading := by
  have pos := unit_pos
  refine le_leading (by omega) ?_
  rw [show tenNum (-2) = 1 from rfl, show tenDen (-2) = 100 from rfl]
  omega

/-- Amounts below ten trillions have at most thirteen digits before the point. -/
theorem leading_le_of_lt (hm : m.quanta ≠ 0) (high : m.quanta < 10 ^ 13 * unit) :
    m.leading ≤ 12 := by
  obtain ⟨below, -⟩ := leading_bounds hm
  refine Int.le_of_not_gt fun greater => ?_
  have den : tenDen m.leading = 1 := by
    unfold tenDen
    rw [show (-m.leading).toNat = 0 by omega]
  have num : 10 ^ 13 ≤ tenNum m.leading := Nat.pow_le_pow_right (by decide) (by omega)
  have most := Nat.mul_le_mul_left unit num
  rw [den] at below
  omega

/-- A number of `i + 1` digits, the first at `10 ^ l`, has few digits even with one more place. -/
theorem digits_of_places {c d i j : Nat} {l e : Int} (small : l ≤ 12) (places : i ≤ l + 2)
    (digits : c * 10 ^ j = d) (few : d ≤ 10 ^ (i + 1)) (exponent : e = l - i + j) :
    c * 10 ^ (e + max 1 (-e).toNat).toNat ≤ 10 ^ 15 := by
  have pow {k : Nat} (hk : k ≤ 15) : 10 ^ k ≤ 10 ^ 15 := Nat.pow_le_pow_right (by decide) hk
  by_cases fraction : l < i
  · have zeros : (e + max 1 (-e).toNat).toNat ≤ j := by omega
    calc c * 10 ^ (e + max 1 (-e).toNat).toNat
        ≤ c * 10 ^ j := Nat.mul_le_mul_left _ (Nat.pow_le_pow_right (by decide) zeros)
      _ ≤ 10 ^ (i + 1) := by rwa [digits]
      _ ≤ 10 ^ 15 := pow (by omega)
  · have zeros : (e + max 1 (-e).toNat).toNat = j + ((l - i).toNat + 1) := by omega
    calc c * 10 ^ (e + max 1 (-e).toNat).toNat
        = d * 10 ^ ((l - i).toNat + 1) := by rw [zeros, Nat.pow_add, ← Nat.mul_assoc, digits]
      _ ≤ 10 ^ (i + 1) * 10 ^ ((l - i).toNat + 1) := Nat.mul_le_mul_right _ few
      _ = 10 ^ (i + 1 + ((l - i).toNat + 1)) := (Nat.pow_add ..).symm
      _ ≤ 10 ^ 15 := pow (by omega)

/-- The search for the shortest decimal of whole cents ends at the grid of cents. -/
theorem shortest_spec_of_cents (pos : 0 < n) (h : m.RoundedFrom n (-2)) :
    ∃ (i j c : Nat), m.onGrid? (m.leading - i) = some ⟨c, m.leading - i⟩ ∧ i ≤ m.leading + 2 ∧
      m.shortest.coefficient * 10 ^ j = c ∧ m.shortest.exponent = m.leading - i + j := by
  have low := unit_le_of_cents pos h
  have hm : m.quanta ≠ 0 := by
    have := unit_pos
    omega
  obtain ⟨i, j, c, first, places, digits⟩ :=
    shortest_spec_of_roundedFrom hm (le_leading_of_cents low) h
  exact ⟨i, j, c, first, by omega, digits⟩

/-- A magnitude that is nearest to a whole number of cents is written with at most two places. -/
theorem le_exponent_of_cents (pos : 0 < n) (h : m.RoundedFrom n (-2)) :
    -2 ≤ m.shortest.exponent := by
  obtain ⟨i, j, c, -, places, -, exponent⟩ := shortest_spec_of_cents pos h
  omega

/-- Below ten trillions it is written with at most fifteen digits when a whole number has one
place. -/
theorem digits_of_cents (pos : 0 < n) (h : m.RoundedFrom n (-2))
    (high : m.quanta < 10 ^ 13 * unit) :
    m.shortest.coefficient *
      10 ^ (m.shortest.exponent + max 1 (-m.shortest.exponent).toNat).toNat ≤ 10 ^ 15 := by
  have hm : m.quanta ≠ 0 := by
    have := unit_pos
    have := unit_le_of_cents pos h
    omega
  obtain ⟨i, j, c, first, places, coefficient, exponent⟩ := shortest_spec_of_cents pos h
  exact digits_of_places (leading_le_of_lt hm high) places coefficient
    (coefficient_onGrid?_le hm i first) exponent

end Cents

end Magnitude

end Reroute
