import Reroute.Double.Basic

/-!
# Shortest decimals

Of all decimals that round to a given magnitude, the ones with the fewest digits, and of these
the nearest. The search tries one digit, two digits, and so on up to seventeen; on each grid only
the two neighbours of the exact value can be the answer.

## Main definitions

* `Decimal.Scaled` — a decimal `coefficient · 10 ^ exponent`.
* `Magnitude.RoundedFrom` — a decimal lies among the reals that round to a magnitude.
* `Magnitude.shortest` — the shortest of these decimals.
-/

namespace Reroute

/-- The decimal number `coefficient · 10 ^ exponent`. -/
structure Decimal.Scaled where
  coefficient : Nat
  exponent : Int
  deriving DecidableEq

namespace Decimal

/-- The numerator of `10 ^ k` as a quotient of naturals. -/
def tenNum (k : Int) : Nat := 10 ^ k.toNat

/-- The denominator of `10 ^ k` as a quotient of naturals. -/
def tenDen (k : Int) : Nat := 10 ^ (-k).toNat

/-- Moves trailing zeros of the digits into the exponent, at most `fuel` of them. -/
def Scaled.trim : Nat → Scaled → Scaled
  | 0, x => x
  | fuel + 1, x =>
    if x.coefficient ≠ 0 ∧ x.coefficient % 10 = 0 then
      trim fuel ⟨x.coefficient / 10, x.exponent + 1⟩
    else x

/-- The exponent of the first digit: `e` in `d.ddd · 10 ^ e`. -/
def Scaled.leading (x : Scaled) : Int := width x.coefficient - 1 + x.exponent

end Decimal

namespace Magnitude

open Decimal

/-- The distance between neighbours from a magnitude upwards. -/
def gap (m : Magnitude) : Nat := 2 ^ spare m.quanta

/-- The quarter quanta from a magnitude down to the middle between it and the one below. -/
def reachDown (m : Magnitude) : Nat :=
  if 1 < m.gap ∧ m.quanta = 2 ^ 52 * m.gap then m.gap else 2 * m.gap

/-- The quarter quanta from a magnitude up to the middle between it and the one above. -/
def reachUp (m : Magnitude) : Nat := 2 * m.gap

/-- The decimal `d · 10 ^ k` rounds to `m`. The ends of the interval belong to it when the last
kept bit is clear. -/
def RoundedFrom (m : Magnitude) (d : Nat) (k : Int) : Prop :=
  let x := d * tenNum k * (4 * unit)
  let lo := (4 * m.quanta - m.reachDown) * tenDen k
  let hi := (4 * m.quanta + m.reachUp) * tenDen k
  if m.quanta / m.gap % 2 = 0 then lo ≤ x ∧ x ≤ hi else lo < x ∧ x < hi

instance (m : Magnitude) (d : Nat) (k : Int) : Decidable (RoundedFrom m d k) := by
  unfold RoundedFrom; infer_instance

/-- The `e` with `10 ^ e ≤ m < 10 ^ (e + 1)`; the least positive magnitude is above `10 ^ -324`. -/
def leading (m : Magnitude) : Int := width (m.quanta * 10 ^ 324 / unit) - 325

/-- The neighbour of `m` on the grid of multiples of `10 ^ k` that rounds back, the nearer first. -/
def onGrid? (m : Magnitude) (k : Int) : Option Scaled :=
  let a := m.quanta * tenDen k
  let b := unit * tenNum k
  let near := nearest a b
  let far := if near = a / b then near + 1 else a / b
  if RoundedFrom m near k then some ⟨near, k⟩
  else if RoundedFrom m far k then some ⟨far, k⟩
  else none

/-- All digits of `m`, for one quantum is `5 ^ 1074` units of `10 ^ -1074`. -/
def exact (m : Magnitude) : Scaled := ⟨m.quanta * 5 ^ 1074, -1074⟩

/-- The shortest decimal that rounds to `m`. -/
def shortest (m : Magnitude) : Scaled :=
  if m.quanta = 0 then ⟨0, 0⟩
  else
    let x? := (List.range 17).findSome? fun (i : Nat) => m.onGrid? (m.leading - i)
    (x?.getD m.exact).trim 17

end Magnitude

end Reroute
