import Reroute.Decimal
import Reroute.Text.Fields
import Reroute.Text.Hex

/-!
# Eight-part addresses

Eight pieces of four hexadecimal digits with colons between; two colons stand for one or more zero
pieces, and the last two pieces may be written as a four-part address.

## Main definitions

* `Ipv6.read?` — the pieces of a text, `Ipv6.chars` — their text, the longest run of zeros left out.
-/

namespace Reroute.Ipv6

/-- A byte in decimal without leading zeros. -/
def byte? (cs : List Char) : Option Nat :=
  if cs ≠ [] ∧ cs.all Char.isDigit ∧ (cs.length = 1 ∨ cs.head? ≠ some '0')
      ∧ Decimal.value cs ≤ 255 then
    some (Decimal.value cs)
  else none

/-- The two pieces of a four-part address. -/
def tail? (cs : List Char) : Option (List Nat) :=
  match (Text.fields '.' cs).mapM byte? with
  | some [a, b, c, d] => some [a * 256 + b, c * 256 + d]
  | _ => none

/-- At most four hexadecimal digits at the front, and what follows. -/
def spanPiece (cs : List Char) : List Char × List Char :=
  let ds := (cs.take 4).takeWhile fun c => (Text.hexDigit? c).isSome
  (ds, cs.drop ds.length)

/-- Reads pieces after those read before; `gap` is where two colons stood. -/
def readFrom? (ps : List Nat) (gap : Option Nat) (cs : List Char) :
    Option (List Nat × Option Nat) :=
  if cs = [] then some (ps, gap)
  else if 8 ≤ ps.length then none
  else
    match cs with
    | ':' :: rest =>
      if gap.isSome then none else readFrom? (ps ++ [0]) (some (ps.length + 1)) rest
    | _ =>
      match spanPiece cs with
      | (ds, []) => some (ps ++ [Text.hexValue ds], gap)
      | (ds, '.' :: _) =>
        if ds = [] ∨ 6 < ps.length then none else (tail? cs).map fun qs => (ps ++ qs, gap)
      | (ds, ':' :: rest) =>
        if rest = [] then none else readFrom? (ps ++ [Text.hexValue ds]) gap rest
      | _ => none
termination_by 8 - ps.length
decreasing_by all_goals simp; omega

/-- Fills the gap with zeros. -/
def fill? : List Nat × Option Nat → Option (List Nat)
  | (ps, some gap) => some (ps.take gap ++ List.replicate (8 - ps.length) 0 ++ ps.drop gap)
  | (ps, none) => if ps.length = 8 then some ps else none

/-- The eight pieces of a text. -/
def read? (cs : List Char) : Option (List Nat) :=
  match cs with
  | ':' :: ':' :: rest => (readFrom? [0] (some 1) rest).bind fill?
  | ':' :: _ => none
  | _ :: _ :: _ => (readFrom? [] none cs).bind fill?
  | _ => none

/-- The length of the run of zeros at the front. -/
def zeroRun (ps : List Nat) : Nat := (ps.takeWhile (· = 0)).length

/-- The place and length of the first of the longest runs of zeros. -/
def longestRun : Nat → List Nat → Nat × Nat
  | _, [] => (0, 0)
  | i, p :: ps =>
    let later := longestRun (i + 1) ps
    if later.2 ≤ zeroRun (p :: ps) then (i, zeroRun (p :: ps)) else later

/-- The pieces in hexadecimal; a run of two or more zeros is left out. -/
def chars (ps : List Nat) : List Char :=
  let (i, n) := longestRun 0 ps
  let text := fun qs => Text.join [':'] (qs.map Text.hexDigits)
  if n < 2 then text ps else text (ps.take i) ++ [':', ':'] ++ text (ps.drop (i + n))

end Reroute.Ipv6
