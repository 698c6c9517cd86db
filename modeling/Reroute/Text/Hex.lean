import Reroute.Decimal

/-!
# Hexadecimal digits

## Main definitions

* `Text.hexDigit`, `Text.hexDigitUpper` — the digit of a number below sixteen.
* `Text.hexDigit?` — the number of a digit in either case.
* `Text.hexValue` — the natural that a list of digits stands for.
-/

namespace Reroute.Text

/-- A digit below sixteen in lower case. -/
def hexDigit (n : Nat) : Char := Char.ofNat (if n < 10 then 48 + n else 87 + n)

/-- A digit below sixteen in upper case. -/
def hexDigitUpper (n : Nat) : Char := Char.ofNat (if n < 10 then 48 + n else 55 + n)

/-- The number of a digit in either case. -/
def hexDigit? (c : Char) : Option Nat :=
  if c.isDigit then some (c.toNat - 48)
  else if 'a' ≤ c ∧ c ≤ 'f' then some (c.toNat - 87)
  else if 'A' ≤ c ∧ c ≤ 'F' then some (c.toNat - 55)
  else none

/-- The natural that hexadecimal digits stand for; other characters count as zero. -/
def hexValue (cs : List Char) : Nat := cs.foldl (fun n c => 16 * n + (hexDigit? c).getD 0) 0

/-- The digits of a natural in lower case, without leading zeros. -/
def hexDigits (n : Nat) : List Char :=
  if n < 16 then [hexDigit n] else hexDigits (n / 16) ++ [hexDigit (n % 16)]
termination_by n

theorem hexDigit?_hexDigit {n : Nat} (h : n < 16) : hexDigit? (hexDigit n) = some n := by
  have : ∀ k : Fin 16, hexDigit? (hexDigit k) = some k.val := by decide
  exact this ⟨n, h⟩

end Reroute.Text
