import Reroute.Decimal
import Reroute.Text.Fields
import Reroute.Text.Hex

/-!
# Four-part addresses

A host whose last part is a number is an address. Its parts are decimal, octal or hexadecimal; the
last one fills all the bytes that are left.

## Main definitions

* `Ipv4.endsInNumber` — the host has to be an address.
* `Ipv4.read?` — the address of a text, `Ipv4.chars` — its usual text.
-/

namespace Reroute.Ipv4

/-- The digits of a number in base eight. -/
def octalValue (cs : List Char) : Nat := cs.foldl (fun n c => 8 * n + Decimal.digitOf c) 0

/-- A part as a number: after `0x` hexadecimal, after `0` octal, else decimal. -/
def part? (cs : List Char) : Option Nat :=
  match cs with
  | [] => none
  | ['0'] => some 0
  | '0' :: 'x' :: ds | '0' :: 'X' :: ds =>
    if ds.all fun c => (Text.hexDigit? c).isSome then some (Text.hexValue ds) else none
  | '0' :: ds =>
    if ds.all fun c => '0' ≤ c && c ≤ '7' then some (octalValue ds) else none
  | ds => if ds.all Char.isDigit then some (Decimal.value ds) else none

/-- The parts between points, without an empty one at the end. -/
def parts (cs : List Char) : List (List Char) :=
  let ps := Text.fields '.' cs
  if ps.length ≠ 1 ∧ ps.getLast? = some [] then ps.dropLast else ps

/-- The last part is written in digits or is a number. -/
def endsInNumber (cs : List Char) : Bool :=
  match (parts cs).getLast? with
  | none => false
  | some p => (p ≠ [] && p.all Char.isDigit) || (part? p).isSome

/-- The address of some numbers: each but the last is one byte. -/
def ofNumbers? (ns : List Nat) : Option Nat :=
  match ns.reverse with
  | [] => none
  | last :: firsts =>
    if 3 < firsts.length ∨ firsts.any (255 < ·) ∨ 256 ^ (4 - firsts.length) ≤ last then none
    else some (firsts.foldr (fun n a => a * 256 + n) 0 * 256 ^ (4 - firsts.length) + last)

/-- The address of a text. -/
def read? (cs : List Char) : Option Nat := do ofNumbers? (← (parts cs).mapM part?)

/-- The four bytes in decimal with points between. -/
def chars (a : Nat) : List Char :=
  Text.join ['.']
    ([a / 256 ^ 3 % 256, a / 256 ^ 2 % 256, a / 256 % 256, a % 256].map Decimal.digits)

end Reroute.Ipv4
