import Reroute.Double.Shortest

/-!
# Written doubles

Three ways to write a double: by position with the fewest digits, with a fixed number of places,
and with a power of ten.

## Main definitions

* `Decimal.Scaled.positional`, `Decimal.Scaled.withPower` — the two layouts of a decimal.
* `Double.positional` — the shortest spelling, without a power of ten and without a needless point.
* `Double.fixed` — the exact value rounded to a number of places, a half to the even neighbour.
-/

namespace Reroute

namespace Decimal

/-- The characters before and after the decimal point, the second list empty for a whole number. -/
def Scaled.split (x : Scaled) : List Char × List Char :=
  let ds := digits x.coefficient
  let point := ds.length + x.exponent
  if point ≤ 0 then (['0'], List.replicate (-point).toNat '0' ++ ds)
  else (ds.take point.toNat ++ List.replicate (point.toNat - ds.length) '0', ds.drop point.toNat)

/-- The decimal written by position. -/
def Scaled.positional (x : Scaled) : List Char :=
  match x.split with
  | (whole, []) => whole
  | (whole, fraction) => whole ++ '.' :: fraction

/-- The decimal written as `d.ddde-n` or `d.ddde+n`. -/
def Scaled.withPower (x : Scaled) : List Char :=
  let mantissa := match digits x.coefficient with
    | [] => []
    | [d] => [d]
    | d :: ds => d :: '.' :: ds
  let e := x.leading
  mantissa ++ 'e' :: (if e < 0 then '-' :: digits (-e).toNat else '+' :: digits e.toNat)

end Decimal

/-- The exact value in units of `10 ^ -places`, rounded to the nearest natural. -/
def Magnitude.inPlaces (places : Nat) (m : Magnitude) : Nat :=
  Decimal.nearest (m.quanta * 10 ^ places) unit

namespace Double

/-- A minus sign for a negative number. -/
def signText (negative : Bool) : List Char := if negative then ['-'] else []

/-- The shortest spelling that reads back, by position. -/
def positional : Double → List Char
  | .nan => ['N', 'a', 'N']
  | .infinite s => signText s ++ ['i', 'n', 'f']
  | .finite s m => signText s ++ m.shortest.positional

/-- A natural number of units of `10 ^ -places`, written with all its places. -/
def placesText (places n : Nat) : List Char :=
  Decimal.digits (n / 10 ^ places) ++
    if places = 0 then [] else '.' :: Decimal.padded places (n % 10 ^ places)

/-- The exact value with a fixed number of places. -/
def fixed (places : Nat) : Double → List Char
  | .nan => ['N', 'a', 'N']
  | .infinite s => signText s ++ ['i', 'n', 'f']
  | .finite s m => signText s ++ placesText places (m.inPlaces places)

end Double

end Reroute
