import Reroute.Text.Hex

/-!
# Ids of rules

Rules without an id get one from a supply. The ids of a supply are written as 32 hexadecimal digits
in five groups, of which 122 bits are free.

## Main definitions

* `Supply` — the ids still to come, `Supply.take` — the next one.
* `Rule.idText` — the id of a number.
-/

namespace Reroute

/-- Ids in the order in which they are taken, and how many are taken already. -/
structure Supply where
  id : Nat → String
  used : Nat

/-- The next id, and the supply without it. -/
def Supply.take (s : Supply) : String × Supply := (s.id s.used, { s with used := s.used + 1 })

namespace Rule

/-- The lowest `w` hexadecimal digits of a natural. -/
def hexGroup : Nat → Nat → List Char
  | 0, _ => []
  | w + 1, n => hexGroup w (n / 16) ++ [Text.hexDigit (n % 16)]

/-- The id of a number below `2 ^ 122`: the third group begins with a four, and the fourth with a
digit from eight to eleven. -/
def idText (n : Nat) : String :=
  String.ofList <|
    hexGroup 8 (n / 2 ^ 90) ++ '-' :: hexGroup 4 (n / 2 ^ 74) ++ '-' :: '4' ::
    hexGroup 3 (n / 2 ^ 62) ++ '-' :: Text.hexDigit (8 + n / 2 ^ 60 % 4) ::
    hexGroup 3 (n / 2 ^ 48) ++ '-' :: hexGroup 12 n

@[simp] theorem length_hexGroup (w n : Nat) : (hexGroup w n).length = w := by
  induction w generalizing n with
  | zero => rfl
  | succ w ih => simp [hexGroup, ih]

/-- An id has 32 digits and four hyphens. -/
@[simp] theorem length_idText (n : Nat) : (idText n).length = 36 := by
  simp only [idText, String.length_ofList, List.length_append, List.length_cons, length_hexGroup]

end Rule

/-- The supply of the ids of numbers that start somewhere and go round. The step between them is
odd, so that all numbers come up, and changes the first eight digits, which are what is shown. -/
def Supply.from (start : Nat) : Supply :=
  ⟨fun i => Rule.idText ((start + i * (2 ^ 90 + 1)) % 2 ^ 122), 0⟩

theorem Supply.from_ne_empty (start n : Nat) : (Supply.from start).id n ≠ "" := by
  intro h
  have := congrArg String.length h
  simp [Supply.from] at this

end Reroute
