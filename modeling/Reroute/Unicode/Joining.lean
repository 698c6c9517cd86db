import Reroute.Unicode.Composition
import Reroute.Unicode.MarkTable
import Reroute.Unicode.Stretch

/-!
# Marks and joiners

A label must not begin with a mark, and the two invisible joiners are allowed only where they
change how letters are joined: after a sign that binds consonants, and one of them also between
letters that join each other.

## Main definitions

* `isMark` — the character is a combining mark.
* `joinersFit` — every joiner of a label stands where it is allowed.
-/

namespace Reroute.Unicode

/-- The stretches of marks from U+0000 on. -/
def marks : Stretches Char := Stretches.ofText markText

/-- The character is a combining mark. -/
def isMark (c : Char) : Bool := 0x300 ≤ c.toNat && marks.letter c = 'M'

/-- The stretches of joining behaviour from U+0000 on. -/
def joinings : Stretches Char := Stretches.ofText joiningText

/-- The first letter that is not seen through joins on a given side. -/
def joins (side : Char) (cs : List Char) : Bool :=
  match cs.dropWhile fun c => joinings.letter c = 'T' with
  | [] => false
  | c :: _ => joinings.letter c = side || joinings.letter c = 'D'

/-- The sign that binds consonants has a combining class of its own. -/
def isBinder (c : Char) : Bool := combiningClass c = 9

/-- Every joiner stands where it is allowed; `before` is the text before, reversed. -/
def joinersFitFrom (before : List Char) : List Char → Bool
  | [] => true
  | c :: cs =>
    (if c.toNat = 0x200C ∨ c.toNat = 0x200D then
      match before with
      | [] => false
      | b :: _ => isBinder b || (c.toNat = 0x200C && joins 'L' before && joins 'R' cs)
    else true) && joinersFitFrom (c :: before) cs

/-- Every joiner of a label stands where it is allowed. -/
def joinersFit (cs : List Char) : Bool := joinersFitFrom [] cs

end Reroute.Unicode
