import Reroute.Double.Read
import Reroute.Double.Text
import Reroute.Refusal
import Reroute.Text.Blank

/-!
# Hourly rates

A rate is typed as a number and kept in cents. The half that decides the rounding is looked up in
the shortest spelling of the number, so that `12.345` becomes `12.35` although the double lies
below the middle.

## Main definitions

* `Rate.toCents` — a number rounded to cents.
* `Rate.ofInput` — the rate that an input asks for; a blank input asks for none.
-/

namespace Reroute.Rate

/-- Rounds to cents, half up on the shortest spelling. Spellings of at most two places stay. -/
def toCents (m : Magnitude) : Double :=
  let (whole, fraction) := m.shortest.split
  if fraction.length ≤ 2 then .finite false m
  else
    let cents := Decimal.Scaled.toDouble false ⟨Decimal.value (whole ++ fraction.take 2), 0⟩
    let up := 5 ≤ Decimal.digitOf (fraction.getD 2 '0')
    (if up then cents.add 1 else cents).div 100

/-- The rate that an input asks for. -/
def ofInput (raw : String) : Except Refusal (Option Double) :=
  match Text.trim raw.toList with
  | [] => .ok none
  | cs =>
    match Double.read? cs with
    | some (.finite negative m) =>
      if m.quanta = 0 then .ok (some .zero)
      else if negative then .error .negative
      else .ok (some (toCents m))
    | _ => .error .notANumber

end Reroute.Rate
