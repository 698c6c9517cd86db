import Reroute.Double.Shortest

/-!
# Reading doubles

A decimal numeral is a sign, digits with an optional point, and an optional power of ten. It
stands for an exact number, and the double nearest to that number is its value.

## Main definitions

* `Decimal.Scaled.toDouble` — the double nearest to a decimal.
* `Numeral.read?` — the unsigned numerals, `Double.read?` — all spellings of a double.
-/

namespace Reroute

open Magnitude (unit)

/-- The double nearest to a signed decimal. Powers of ten that are out of every reach are settled
without computing them. -/
def Decimal.Scaled.toDouble (negative : Bool) (x : Decimal.Scaled) : Double :=
  if x.coefficient = 0 then .finite negative .zero
  else if 400 < x.leading then .infinite negative
  else if x.leading < -400 then .finite negative .zero
  else
    .ofQuanta negative (x.coefficient * Decimal.tenNum x.exponent * unit)
      (Decimal.tenDen x.exponent)

namespace Numeral

/-- The digits at the front, and what follows them. -/
def spanDigits (cs : List Char) : List Char × List Char :=
  (cs.takeWhile Char.isDigit, cs.dropWhile Char.isDigit)

/-- A sign at the front, if there is one, and what follows it. -/
def spanSign : List Char → Bool × List Char
  | '-' :: cs => (true, cs)
  | '+' :: cs => (false, cs)
  | cs => (false, cs)

/-- The power of ten that ends a numeral: nothing, or `e` and a signed whole number. -/
def power? : List Char → Option Int
  | [] => some 0
  | c :: cs =>
    if c = 'e' ∨ c = 'E' then
      let (negative, cs) := spanSign cs
      let (ds, rest) := spanDigits cs
      if ds = [] ∨ rest ≠ [] then none
      else some (if negative then -Decimal.value ds else Decimal.value ds)
    else none

/-- An unsigned numeral with at least one digit before or after its point. -/
def read? (cs : List Char) : Option Decimal.Scaled :=
  let (whole, rest) := spanDigits cs
  let (fraction, rest) := match rest with
    | '.' :: rest => spanDigits rest
    | rest => ([], rest)
  if whole = [] ∧ fraction = [] then none
  else (power? rest).map fun e => ⟨Decimal.value (whole ++ fraction), e - fraction.length⟩

end Numeral

namespace Double

/-- Spellings of the numbers that are not finite, in lower case. -/
def special? (negative : Bool) (cs : List Char) : Option Double :=
  let word := String.ofList (cs.map Char.toLower)
  if word = "inf" ∨ word = "infinity" then some (.infinite negative)
  else if word = "nan" then some .nan
  else none

/-- The double that a text spells. -/
def read? (cs : List Char) : Option Double :=
  let (negative, cs) := Numeral.spanSign cs
  match Numeral.read? cs with
  | some x => some (x.toDouble negative)
  | none => special? negative cs

end Double

end Reroute
