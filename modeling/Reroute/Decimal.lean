/-!
# Decimal digits

Naturals written in base ten, and the rounding of an exact quotient to the nearest natural.

## Main definitions

* `Decimal.digits` — the digits of a natural, without leading zeros.
* `Decimal.value` — the natural that a list of digits stands for.
* `Decimal.nearest` — the natural nearest to a quotient, a half going to the even neighbour.
-/

-- Powers are those of the core library, whatever instances for monoids are in scope.
attribute [instance (1100), default_instance (11000)] instPowNat

namespace Reroute.Decimal

/-- The digit below ten that a character shows. -/
def digitOf (c : Char) : Nat := c.toNat - 48

/-- The character that shows a digit below ten. -/
def digitChar (d : Nat) : Char := Char.ofNat (48 + d)

/-- The base ten digits of `n`, the most significant first; zero has the one digit `0`. -/
def digits (n : Nat) : List Char :=
  if n < 10 then [digitChar n] else digits (n / 10) ++ [digitChar (n % 10)]
termination_by n

/-- The natural that a list of digits stands for. -/
def value (cs : List Char) : Nat := cs.foldl (fun n c => 10 * n + digitOf c) 0

/-- The number of base ten digits of `n`. -/
def width (n : Nat) : Nat := (digits n).length

/-- The natural nearest to `a / b`; a half goes to the even neighbour. -/
def nearest (a b : Nat) : Nat :=
  if 2 * (a % b) < b then a / b
  else if b < 2 * (a % b) then a / b + 1
  else a / b + a / b % 2

/-- `digits n` filled up with leading zeros to at least `w` characters. -/
def padded (w n : Nat) : List Char := List.replicate (w - width n) '0' ++ digits n

theorem digitOf_digitChar {d : Nat} (h : d < 10) : digitOf (digitChar d) = d := by
  have : ∀ k : Fin 10, digitOf (digitChar k) = k := by decide
  exact this ⟨d, h⟩

theorem isDigit_digitChar {d : Nat} (h : d < 10) : (digitChar d).isDigit = true := by
  have : ∀ k : Fin 10, (digitChar k).isDigit = true := by decide
  exact this ⟨d, h⟩

theorem value_append_singleton (cs : List Char) (c : Char) :
    value (cs ++ [c]) = 10 * value cs + digitOf c := by
  simp [value, List.foldl_append]

theorem value_digits (n : Nat) : value (digits n) = n := by
  fun_induction digits n with
  | case1 n h => simp [value, digitOf_digitChar h]
  | case2 n h ih =>
    rw [value_append_singleton, ih, digitOf_digitChar (Nat.mod_lt _ (by decide))]
    omega

theorem isDigit_of_mem_digits {n : Nat} {c : Char} (h : c ∈ digits n) : c.isDigit = true := by
  fun_induction digits n with
  | case1 n hn => simp at h; exact h ▸ isDigit_digitChar hn
  | case2 n hn ih =>
    rcases List.mem_append.1 h with h | h
    · exact ih h
    · simp at h; exact h ▸ isDigit_digitChar (Nat.mod_lt _ (by decide))

theorem digits_ne_nil (n : Nat) : digits n ≠ [] := by
  unfold digits; split <;> simp

theorem nearest_of_dvd {a b : Nat} (h : b ∣ a) : nearest a b = a / b := by
  obtain ⟨k, rfl⟩ := h
  rcases Nat.eq_zero_or_pos b with rfl | hb
  · simp [nearest]
  · simp [nearest, Nat.mul_mod_right, hb]

theorem nearest_le (a b : Nat) : nearest a b ≤ a / b + 1 := by
  unfold nearest; split
  · omega
  · split <;> omega

theorem le_nearest (a b : Nat) : a / b ≤ nearest a b := by
  unfold nearest; split
  · omega
  · split <;> omega

/-- The nearest natural is within half a unit of the quotient. -/
theorem nearest_within_half {a b : Nat} (hb : 0 < b) :
    2 * (nearest a b * b) ≤ 2 * a + b ∧ 2 * a ≤ 2 * (nearest a b * b) + b := by
  have h := Nat.div_add_mod a b
  have hm := Nat.mod_lt a hb
  have hc : a / b * b = b * (a / b) := Nat.mul_comm ..
  have hs : (a / b + 1) * b = b * (a / b) + b := by rw [Nat.add_mul, hc]; omega
  unfold nearest
  split
  · rw [hc]; omega
  · split
    · rw [hs]; omega
    · rcases Nat.mod_two_eq_zero_or_one (a / b) with h2 | h2
      · rw [h2, Nat.add_zero, hc]; omega
      · rw [h2, hs]; omega

end Reroute.Decimal
