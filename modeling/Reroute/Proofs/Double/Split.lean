import Reroute.Proofs.Double.Shortest
import Reroute.Proofs.Json.Numerals

/-!
# Decimals written by position

The digits of a decimal are cut at its point, with zeros filled in where the point lies outside of
them.

## Main results

* `Decimal.isDigit_of_mem_split`, `Decimal.length_split_le` — both parts are digits, and how many
  stand before the point.
* `Decimal.Scaled.split_spec` — what both parts stand for.
-/

namespace Reroute.Decimal

theorem isDigit_of_mem_split {x : Scaled} {c : Char} (h : c ∈ x.split.1 ++ x.split.2) :
    c.isDigit = true := by
  have zero : ∀ n, c ∈ List.replicate n '0' → c.isDigit = true := by
    intro n hc
    rw [List.eq_of_mem_replicate hc]
    rfl
  unfold Scaled.split at h
  dsimp only at h
  split at h <;> simp only [List.mem_append] at h
  · rcases h with h | h | h
    · exact zero 1 h
    · exact zero _ h
    · exact isDigit_of_mem_digits h
  · rcases h with (h | h) | h
    · exact isDigit_of_mem_digits (List.mem_of_mem_take h)
    · exact zero _ h
    · exact isDigit_of_mem_digits (List.mem_of_mem_drop h)

/-- A decimal with places after its point has fewer places before it than digits. -/
theorem length_split_le {x : Scaled} (h : x.split.2 ≠ []) :
    x.split.1.length ≤ width x.coefficient := by
  have pos : 0 < width x.coefficient := List.length_pos_iff.2 (digits_ne_nil _)
  unfold Scaled.split at h ⊢
  dsimp only at h ⊢
  split
  · exact pos
  · rename_i hp
    rw [if_neg hp, ne_eq, List.drop_eq_nil_iff] at h
    simp [width]
    omega

theorem value_append (cs ds : List Char) :
    value (cs ++ ds) = ds.foldl (fun n c => 10 * n + digitOf c) (value cs) := List.foldl_append

theorem foldl_value (ds : List Char) (n : Nat) :
    ds.foldl (fun n c => 10 * n + digitOf c) n = n * 10 ^ ds.length + value ds := by
  induction ds generalizing n with
  | nil => simp [value]
  | cons d ds ih =>
    have first : value (d :: ds) = ds.foldl (fun n c => 10 * n + digitOf c) (10 * 0 + digitOf d) :=
      rfl
    rw [first, List.foldl_cons, ih, ih, List.length_cons, Nat.pow_succ]
    grind

/-- The digits that follow others raise these by their number. -/
theorem value_append_eq (cs ds : List Char) :
    value (cs ++ ds) = value cs * 10 ^ ds.length + value ds := by
  rw [value_append, foldl_value]

theorem value_append_zeros (cs : List Char) (n : Nat) :
    value (cs ++ List.replicate n '0') = value cs * 10 ^ n := by
  induction n with
  | zero => simp
  | succ n ih =>
    have zero : digitOf '0' = 0 := rfl
    rw [List.replicate_succ', ← List.append_assoc, value_append_singleton, ih, zero, Nat.add_zero,
      Nat.mul_comm, Nat.mul_assoc, Nat.pow_succ]

theorem value_zeros_append (n : Nat) (cs : List Char) :
    value (List.replicate n '0' ++ cs) = value cs := by
  have zeros : value (List.replicate n '0') = 0 := by
    simpa [value] using value_append_zeros [] n
  rw [value_append, zeros]
  rfl

/-! ## Numbers with leading zeros -/

theorem isDigit_of_mem_padded {w n : Nat} {c : Char} (h : c ∈ padded w n) : c.isDigit = true := by
  rcases List.mem_append.1 h with h | h
  · rw [List.eq_of_mem_replicate h]
    rfl
  · exact isDigit_of_mem_digits h

theorem length_padded {w n : Nat} (hw : 0 < w) (h : n < 10 ^ w) : (padded w n).length = w := by
  have fits : width n ≤ w := width_le h hw
  rw [padded, List.length_append, List.length_replicate]
  change w - width n + width n = w
  omega

theorem value_padded (w n : Nat) : value (padded w n) = n := by
  rw [padded, value_zeros_append, value_digits]

/-! ## Both parts of a decimal -/

open Json.Number (Begins)

/-- The digits before the point begin a numeral, there are as many after it as there are places, and
all together they are the digits of a whole number. -/
theorem Scaled.split_spec {x : Scaled} (pos : 0 < x.coefficient) :
    Begins x.split.1 ∧ x.split.2.length = (-x.exponent).toNat ∧
      value (x.split.1 ++ x.split.2) = x.coefficient * 10 ^ x.exponent.toNat := by
  have some := digits_ne_nil x.coefficient
  have whole := value_digits x.coefficient
  have first : (digits x.coefficient).head? ≠ Option.some '0' := fun zero =>
    Nat.ne_of_gt pos (eq_zero_of_head?_digits zero)
  unfold Scaled.split
  generalize digits x.coefficient = ds at *
  have width : 0 < ds.length := List.length_pos_iff.2 some
  dsimp only
  split
  · rename_i before
    refine ⟨by simp [Begins], by simp; omega, ?_⟩
    have all : ['0'] ++ (List.replicate (-(ds.length + x.exponent)).toNat '0' ++ ds) =
        List.replicate ((-(ds.length + x.exponent)).toNat + 1) '0' ++ ds := rfl
    rw [all, value_zeros_append, whole, show x.exponent.toNat = 0 by omega, Nat.pow_zero,
      Nat.mul_one]
  · rename_i inside
    have begins (zeros : List Char) :
        Begins (ds.take (ds.length + x.exponent).toNat ++ zeros) := by
      cases ds with
      | nil => exact absurd rfl some
      | cons d ds =>
        obtain ⟨p, hp⟩ : ∃ p, ((d :: ds).length + x.exponent).toNat = p + 1 :=
          ⟨((d :: ds).length + x.exponent).toNat - 1, by omega⟩
        rw [hp, List.take_succ_cons, List.cons_append]
        exact fun wrong => wrong.elim nofun fun zero => first zero.1
    refine ⟨begins _, by simp; omega, ?_⟩
    by_cases places : x.exponent < 0
    · rw [show (ds.length + x.exponent).toNat - ds.length = 0 by omega,
        show x.exponent.toNat = 0 by omega, List.replicate_zero, List.append_nil,
        List.take_append_drop, whole, Nat.pow_zero, Nat.mul_one]
    · rw [List.take_of_length_le (by omega), List.drop_of_length_le (by omega), List.append_nil,
        value_append_zeros, whole, show (ds.length + x.exponent).toNat - ds.length =
          x.exponent.toNat by omega]

end Reroute.Decimal
