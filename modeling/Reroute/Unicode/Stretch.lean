import Reroute.Text.Fields
import Reroute.Text.Hex

/-!
# Tables of stretches

A property of characters is given as a list of stretches that follow one another, each with its
length and the value of all its characters.

## Main definitions

* `Stretches.find?` — the value at a position, with the place inside the stretch.
* `Stretches.ofText` — the stretches that a text of words describes.
-/

namespace Reroute.Unicode

/-- Stretches that follow one another: lengths and values. -/
abbrev Stretches (α : Type) := List (Nat × α)

namespace Stretches

/-- The value at position `n` and its distance from the start of the stretch. -/
def find? : Stretches α → Nat → Option (Nat × α)
  | [], _ => none
  | (len, a) :: rest, n => if n < len then some (n, a) else find? rest (n - len)

/-- The words of a table, which stand between spaces and line ends. -/
def words (text : String) : List (List Char) :=
  (Text.fields ' ' (text.toList.map fun c => if c = '\n' then ' ' else c)).filter (· ≠ [])

/-- The stretches that the words of a text describe by a letter and a length. -/
def ofText (text : String) : Stretches Char :=
  (words text).map fun w => (Text.hexValue (w.drop 1), w.headD ' ')

/-- The letter at the place of a character. -/
def letter (t : Stretches Char) (c : Char) : Char :=
  match find? t c.toNat with
  | some (_, a) => a
  | none => ' '

end Stretches

end Reroute.Unicode
