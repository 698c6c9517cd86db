import Reroute.Proofs.Double.Bounds
import Reroute.Proofs.Double.Split
import Reroute.Proofs.Settings
import Reroute.Rate

/-!
# Accepted rates are finite

An input may be as large as any double; what is added by rounding it to cents does not lead out of
the finite numbers.

## Main results

* `Rate.toCents_finite` — rounding to cents yields a finite number.
* `Rate.finite_of_ofInput`, `Rate.sound_of_ofInput` — an accepted rate is finite and not negative.
-/

namespace Reroute

namespace Rate

open Magnitude (unit)

/-- A number with more than two places has at most twenty digits up to the second place. -/
theorem cents_lt {m : Magnitude} (long : 2 < m.shortest.split.2.length) :
    Decimal.value (m.shortest.split.1 ++ m.shortest.split.2.take 2) < 10 ^ 20 := by
  have hw : m.shortest.split.1.length ≤ 18 := by
    have hne : m.shortest.split.2 ≠ [] := List.length_pos_iff.1 (by omega)
    have hdig := Decimal.width_le (k := 18)
      (Nat.lt_of_le_of_lt m.shortest_coefficient_le (by decide)) (by decide)
    exact Nat.le_trans (Decimal.length_split_le hne) hdig
  refine Nat.lt_of_lt_of_le (Decimal.value_lt _ fun c hc => ?_)
    (Nat.pow_le_pow_right (by decide) (by simp; omega))
  refine Decimal.isDigit_of_mem_split (x := m.shortest) ?_
  exact (List.Sublist.append_left (List.take_sublist 2 _) _).subset hc

/-- Rounding to cents never leaves the finite numbers. -/
theorem toCents_finite (m : Magnitude) : ∃ c, toCents m = .finite false c := by
  unfold toCents
  dsimp only
  split
  · exact ⟨m, rfl⟩
  · rename_i long
    have hv := cents_lt (Nat.lt_of_not_le long)
    have hu := Magnitude.unit_pos
    have hb := Magnitude.pow_mul_unit_lt (k := 100) (by decide)
    have cents := Double.atMost_toDouble hv
    have hundred : ∀ {x n}, Double.AtMost n x → 2 * n + 1 < Magnitude.bound →
        ∃ c, x.div 100 = .finite false c := by
      intro x n hx hn
      obtain ⟨c, hc, -⟩ := hx.div (d := 100) (by decide) (by decide) hn
      exact ⟨c, hc⟩
    have one : Double.AtMost unit 1 := ⟨_, Double.ofNat_of_le (n := 1) (by decide), by simp⟩
    split
    · exact hundred (cents.add one (by omega)) (by omega)
    · exact hundred cents (by omega)

/-- An accepted rate is a finite number that is not negative. -/
theorem finite_of_ofInput {raw : String} {r : Double} (h : ofInput raw = .ok (some r)) :
    ∃ m, r = .finite false m := by
  unfold ofInput at h
  split at h
  · cases h
  · split at h
    · split at h
      · cases h; exact ⟨_, rfl⟩
      · split at h
        · cases h
        · cases h; exact toCents_finite _
    · cases h

theorem sound_of_ofInput {raw : String} {rate : Option Double} (h : ofInput raw = .ok rate) :
    Settings.Sound ⟨rate⟩ := by
  intro r hr
  have hr : rate = some r := hr
  obtain ⟨m, rfl⟩ := finite_of_ofInput (hr ▸ h)
  rw [Double.zero_le_finite]
  rfl

end Rate

end Reroute
