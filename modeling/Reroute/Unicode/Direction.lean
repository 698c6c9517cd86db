import Reroute.Unicode.DirectionTable
import Reroute.Unicode.Stretch

/-!
# Direction of labels

A label of a host name that has letters written from right to left must not look different when it
is shown beside others: it starts with a letter, ends with a letter or digit of its own direction,
and does not mix two kinds of digits.

## Main definitions

* `Direction` — the classes of direction, `Direction.of` — of a character.
* `Direction.isRightToLeft` — the class belongs to a text from right to left.
* `Direction.fits` — a label keeps the rule.
-/

namespace Reroute.Unicode

/-- The classes of direction that a label can hold, and one for all others. -/
inductive Direction where
  | left | right | arabic
  | digit | arabicDigit
  | sign | terminator | separator
  | mark | neutral | boundary
  | other
  deriving DecidableEq

namespace Direction

/-- The class that a letter of the table names. -/
def ofLetter : Char → Direction
  | 'L' => .left
  | 'R' => .right
  | 'A' => .arabic
  | 'E' => .digit
  | 'N' => .arabicDigit
  | 'S' => .sign
  | 'T' => .terminator
  | 'C' => .separator
  | 'M' => .mark
  | 'O' => .neutral
  | 'B' => .boundary
  | _ => .other

/-- The stretches from U+0000 on. -/
def table : Stretches Char := Stretches.ofText directionText

/-- The class of a character. -/
def of (c : Char) : Direction := ofLetter (table.letter c)

/-- The classes that make a host name one from right to left. -/
def isRightToLeft (d : Direction) : Bool := d = .right || d = .arabic || d = .arabicDigit

/-- The classes that may stand in both kinds of labels. -/
def isCommon (d : Direction) : Bool :=
  d = .digit || d = .sign || d = .terminator || d = .separator || d = .mark || d = .neutral
    || d = .boundary

/-- A label, given by its classes, keeps the rule. -/
def fits (ds : List Direction) : Bool :=
  match ds with
  | [] => true
  | first :: _ =>
    let last := (ds.reverse.dropWhile (· = .mark)).headD first
    if first = .left then
      ds.all (fun d => d = .left || d.isCommon) && (last = .left || last = .digit)
    else if first = .right || first = .arabic then
      ds.all (fun d => d.isRightToLeft || d.isCommon) && (last.isRightToLeft || last = .digit)
        && !(ds.contains .digit && ds.contains .arabicDigit)
    else false

end Direction

end Reroute.Unicode
