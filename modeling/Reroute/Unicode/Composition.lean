import Reroute.Unicode.CompositionTable
import Reroute.Unicode.Stretch

/-!
# Canonical composition

Texts that look the same are brought to one form: characters are taken apart, marks are put in the
order of their classes, and what can be composed is composed. Characters that never appear in a
composed text are not taken apart, as the host mapping has replaced them before.

## Main definitions

* `combiningClass` — the class by which marks are ordered.
* `compose?` — the character that two characters form.
* `normalForm` — the composed form of a text.
-/

namespace Reroute.Unicode

/-- The stretches of combining classes from U+0000 on. -/
def combiningClasses : Stretches Nat :=
  (Stretches.words combiningClassText).map fun w =>
    match Text.fields '.' w with
    | [len, cls] => (Text.hexValue len, Text.hexValue cls)
    | _ => (0, 0)

/-- The class by which a mark is ordered; zero for a character that starts anew. -/
def combiningClass (c : Char) : Nat :=
  if c.toNat < 0x300 then 0
  else match combiningClasses.find? c.toNat with
    | some (_, n) => n
    | none => 0

/-- Two characters and the one they form. -/
structure Pair where
  first : Char
  second : Char
  whole : Char

/-- All pairs that form a character, those of the Korean script apart. -/
def pairs : List Pair :=
  (Stretches.words compositionText).filterMap fun w =>
    match (Text.fields '.' w).map fun n => Char.ofNat (Text.hexValue n) with
    | [a, b, c] => some ⟨a, b, c⟩
    | _ => none

/-! ## Korean syllables

A syllable is a leading consonant, a vowel, and perhaps a trailing consonant; its number is
computed from theirs. -/

/-- The leading consonant and vowel, or the open syllable and trailing consonant, of a syllable. -/
def syllableParts? (c : Char) : Option (Char × Char) :=
  let n := c.toNat
  if 0xAC00 ≤ n ∧ n < 0xAC00 + 11172 then
    let s := n - 0xAC00
    if s % 28 = 0 then
      some (Char.ofNat (0x1100 + s / 588), Char.ofNat (0x1161 + s % 588 / 28))
    else some (Char.ofNat (0xAC00 + s / 28 * 28), Char.ofNat (0x11A7 + s % 28))
  else none

/-- The syllable that two parts form. -/
def syllable? (a b : Char) : Option Char :=
  let x := a.toNat
  let y := b.toNat
  if 0x1100 ≤ x ∧ x < 0x1113 ∧ 0x1161 ≤ y ∧ y < 0x1176 then
    some (Char.ofNat (0xAC00 + ((x - 0x1100) * 21 + (y - 0x1161)) * 28))
  else if 0xAC00 ≤ x ∧ x < 0xAC00 + 11172 ∧ (x - 0xAC00) % 28 = 0 ∧ 0x11A8 ≤ y ∧ y < 0x11C3 then
    some (Char.ofNat (x + (y - 0x11A7)))
  else none

/-! ## Taking apart and composing -/

/-- The two characters that form a character. -/
def parts? (c : Char) : Option (Char × Char) :=
  if c.toNat < 0xC0 then none
  else match syllableParts? c with
    | some p => some p
    | none => (pairs.find? (·.whole = c)).map fun p => (p.first, p.second)

/-- The character that two characters form. -/
def compose? (a b : Char) : Option Char :=
  if b.toNat < 0x300 then none
  else match syllable? a b with
    | some c => some c
    | none => (pairs.find? fun p => p.first = a ∧ p.second = b).map (·.whole)

/-- The parts of a character, taken apart at most `steps` times. -/
def decompose : Nat → Char → List Char
  | 0, c => [c]
  | steps + 1, c =>
    match parts? c with
    | some (a, b) => decompose steps a ++ [b]
    | none => [c]

/-- No character is made of more than four others. -/
def decomposeAll (cs : List Char) : List Char := cs.flatMap (decompose 4)

/-- Puts a character behind all of no higher class among the marks at the end of a reversed
text. -/
def insertMark (c : Char) : List Char → List Char
  | [] => [c]
  | d :: ds =>
    if combiningClass c ≠ 0 ∧ combiningClass c < combiningClass d then d :: insertMark c ds
    else c :: d :: ds

/-- Orders the marks after each starting character by their classes. -/
def orderMarks (cs : List Char) : List Char :=
  (cs.foldl (fun done c => insertMark c done) []).reverse

/-- Composes a starting character with the marks and characters after it. `kept` are the marks
since then that did not compose; one of the same or a higher class hides the start from a mark. -/
def composeFrom (start : Char) (kept : List Char) : List Char → List Char
  | [] => start :: kept
  | c :: cs =>
    let seen := kept.all fun d => combiningClass d < combiningClass c
    match compose? start c with
    | some d =>
      if seen then composeFrom d kept cs
      else if combiningClass c = 0 then start :: kept ++ composeFrom c [] cs
      else composeFrom start (kept ++ [c]) cs
    | none =>
      if combiningClass c = 0 then start :: kept ++ composeFrom c [] cs
      else composeFrom start (kept ++ [c]) cs

/-- Composes a text, from its first starting character on. -/
def composeAll : List Char → List Char
  | [] => []
  | c :: cs => if combiningClass c = 0 then composeFrom c [] cs else c :: composeAll cs

/-- The composed form of a text. ASCII texts are composed already. -/
def normalForm (cs : List Char) : List Char :=
  if cs.all (·.toNat < 0x80) then cs else composeAll (orderMarks (decomposeAll cs))

end Reroute.Unicode
