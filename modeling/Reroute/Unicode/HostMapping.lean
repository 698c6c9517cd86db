import Reroute.Unicode.HostMappingTable
import Reroute.Unicode.Stretch

/-!
# Mapping of host names

What a character of a host name stands for: itself, nothing, other characters, or an error. ASCII
letters become small and other ASCII characters stay.

## Main definitions

* `HostMapping` — what becomes of a character, `HostMapping.of` — of a given one.
* `HostMapping.map?` — a whole text mapped, unless a character is refused.
-/

namespace Reroute.Unicode

/-- What becomes of a character of a host name. -/
inductive HostMapping where
  | valid
  | refused
  | ignored
  | becomes (cs : List Char)
  deriving DecidableEq

namespace HostMapping

/-- What becomes of the characters of a stretch. -/
inductive Rule where
  | every (m : HostMapping)
  | shifted (first : Nat)
  | alternating (first : Nat)

/-- The characters whose numbers are written in hexadecimal between points. -/
def charsOf (w : List Char) : List Char :=
  (Text.fields '.' w).map fun n => Char.ofNat (Text.hexValue n)

/-- A length, a point, and what follows it. -/
def lengthAnd (w : List Char) : Nat × List Char :=
  (Text.hexValue (w.takeWhile (· ≠ '.')), (w.dropWhile (· ≠ '.')).drop 1)

/-- The stretch that a word of the table describes. -/
def ofWord : List Char → Nat × Rule
  | 'v' :: w => (Text.hexValue w, .every .valid)
  | 'i' :: w => (Text.hexValue w, .every .ignored)
  | 'm' :: w => (1, .every (.becomes (charsOf w)))
  | 'c' :: w => let (n, w) := lengthAnd w; (n, .every (.becomes (charsOf w)))
  | 's' :: w => let (n, w) := lengthAnd w; (n, .shifted (Text.hexValue w))
  | 'a' :: w => let (n, w) := lengthAnd w; (n, .alternating (Text.hexValue w))
  | w => (Text.hexValue (w.drop 1), .every .refused)

/-- The stretches from U+0080 on. -/
def table : Stretches Rule := (Stretches.words hostMappingText).map ofWord

/-- What becomes of a character. -/
def of (c : Char) : HostMapping :=
  if c.toNat < 0x80 then
    if c.isUpper then .becomes [c.toLower] else .valid
  else
    match table.find? (c.toNat - 0x80) with
    | some (_, .every m) => m
    | some (k, .shifted first) => .becomes [Char.ofNat (first + k)]
    | some (k, .alternating first) =>
      if k % 2 = 0 then .becomes [Char.ofNat (first + k)] else .valid
    | none => .refused

/-- The text that the characters of a text stand for. -/
def map? : List Char → Option (List Char)
  | [] => some []
  | c :: cs =>
    match of c with
    | .valid => (map? cs).map (c :: ·)
    | .ignored => map? cs
    | .becomes ds => (map? cs).map (ds ++ ·)
    | .refused => none

end HostMapping

end Reroute.Unicode
