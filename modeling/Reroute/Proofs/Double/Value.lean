import Mathlib.Data.Rat.Floor
import Reroute.Json.Number

/-!
# Exact values

A double, a decimal and a number of JSON each stand for one rational number.

## Main definitions

* `Magnitude.toRat`, `Decimal.Scaled.toRat`, `Json.Number.toRat` — the number that is stood for.
-/

namespace Reroute

/-- The exact value of a magnitude. -/
def Magnitude.toRat (m : Magnitude) : ℚ := m.quanta / unit

/-- The exact value of a decimal. -/
def Decimal.Scaled.toRat (x : Scaled) : ℚ := x.coefficient * 10 ^ x.exponent

/-- The exact value of a number. -/
def Json.Number.toRat : Number → ℚ
  | .natural n => n.toNat
  | .negSucc n _ => -(n + 1)
  | .float negative m => if negative then -m.toRat else m.toRat

theorem Magnitude.toRat_nonneg (m : Magnitude) : 0 ≤ m.toRat := by
  unfold toRat
  positivity

/-- The whole part of a magnitude. -/
theorem Magnitude.floor_toRat (m : Magnitude) : ⌊m.toRat⌋₊ = m.quanta / unit :=
  Rat.natFloor_natCast_div_natCast ..

end Reroute
