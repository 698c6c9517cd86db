import Mathlib.Data.List.Basic
import Reroute.Proofs.Json.Floats

/-!
# Different numbers are written differently

A whole number is written with digits only, and a float with a point or a power of ten. What is
written of a float spells a decimal, which rounds to one size only. So the text of a number tells
which number it is, its kind and the sign of a zero included.

## Main results

* `Json.Number.floatChars_cases` — the text of a float spells a decimal that rounds to it.
* `Json.Number.floatChars_injective`, `Json.Number.chars_injective` — different numbers are written
  differently.
-/

namespace Reroute

open Decimal

/-- A decimal rounds to one size only. -/
theorem Magnitude.RoundedFrom.unique {a b : Magnitude} {d : Nat} {k : Int} (ha : a.RoundedFrom d k)
    (hb : b.RoundedFrom d k) : a = b := by
  have same : a.quanta = b.quanta := (roundedFrom_iff.1 ha).symm.trans (roundedFrom_iff.1 hb)
  obtain ⟨n, fits⟩ := a
  cases same
  rfl

/-- A decimal with a power of ten has its digits and perhaps a point before the power. -/
theorem Decimal.Scaled.exists_mantissa (x : Scaled) :
    ∃ mantissa power, x.withPower = mantissa ++ 'e' :: power ∧ 'e' ∉ mantissa ∧ 'e' ∉ power ∧
      mantissa.filter Char.isDigit = digits x.coefficient ∧
      Json.Number.readPower? power = some (x.leading, []) := by
  have all : ∀ c ∈ digits x.coefficient, c.isDigit = true := fun c => isDigit_of_mem_digits
  have apart (n : Nat) : 'e' ∉ digits n :=
    fun member => absurd (isDigit_of_mem_digits member) (by decide)
  have ends : Json.EndsNumeral [] := nofun
  have read := Json.Number.readPower?_chars ends x.leading
  rw [List.append_nil] at read
  refine ⟨_, _, rfl, ?before, ?after, ?kept, read⟩
  case after => split <;> simp [apart]
  all_goals
    have other := apart x.coefficient
    generalize digits x.coefficient = ds at *
    match ds with
    | [] => simp
    | [d] => simp_all
    | d :: c :: ds => simp_all

namespace Json.Number

/-! ## Floats -/

/-- A float is written with a point between digits, or its digits are followed by a power of ten.
What is written spells a decimal that rounds to the float. -/
theorem floatChars_cases (m : Magnitude) :
    (∃ whole places, floatChars m = whole ++ '.' :: places ∧
      (∀ c ∈ whole ++ places, c.isDigit = true) ∧
      m.RoundedFrom (value (whole ++ places)) (-places.length)) ∨
    ∃ mantissa power p, floatChars m = mantissa ++ 'e' :: power ∧ 'e' ∉ mantissa ∧ 'e' ∉ power ∧
      readPower? power = some (p, []) ∧
      m.RoundedFrom (value (mantissa.filter Char.isDigit))
        (p + 1 - (mantissa.filter Char.isDigit).length) := by
  by_cases zero : m.quanta = 0
  · rw [Magnitude.eq_zero_of_quanta zero]
    have written : floatChars .zero = ['0'] ++ '.' :: ['0'] := by decide +kernel
    have nothing : value (['0'] ++ ['0']) = 0 := rfl
    refine .inl ⟨['0'], ['0'], written, by simp [Char.isDigit], ?_⟩
    rw [nothing, Magnitude.roundedFrom_iff]
    simp [Magnitude.roundQuotient, nearest, Magnitude.zero]
  have rounds := Magnitude.roundedFrom_shortest zero
  by_cases point : pointRange m.shortest.leading = true
  · obtain ⟨whole, places, written, -, all, length, total⟩ := floatChars_of_point zero point
    have scale : -(places.length : Int) + (m.shortest.exponent + places.length).toNat =
        m.shortest.exponent := by omega
    refine .inl ⟨whole, places, written, all, ?_⟩
    rwa [total, Magnitude.roundedFrom_shift, scale]
  · obtain ⟨mantissa, power, written, before, after, kept, read⟩ := m.shortest.exists_mantissa
    have scale : m.shortest.leading + 1 - (digits m.shortest.coefficient).length =
        m.shortest.exponent := by
      unfold Scaled.leading width
      omega
    refine .inr ⟨mantissa, power, _, (if_neg point).trans written, before, after, read, ?_⟩
    rwa [kept, scale, value_digits]

/-- A text that ends with a power of ten has more than digits and a point. -/
theorem point_ne_power {whole places mantissa power : List Char}
    (digits : ∀ c ∈ whole ++ places, c.isDigit = true) :
    whole ++ '.' :: places ≠ mantissa ++ 'e' :: power := by
  intro same
  have member : 'e' ∈ whole ++ '.' :: places := same ▸ by simp
  rcases List.mem_append.1 member with front | back
  · exact absurd (digits _ (List.mem_append_left _ front)) (by decide)
  · rcases List.mem_cons.1 back with wrong | back
    · exact absurd wrong (by decide)
    · exact absurd (digits _ (List.mem_append_right _ back)) (by decide)

/-- Different sizes are written differently. -/
theorem floatChars_injective {a b : Magnitude} (same : floatChars a = floatChars b) : a = b := by
  rcases floatChars_cases a with ⟨whole, places, written, all, rounds⟩ |
    ⟨mantissa, power, p, written, before, after, read, rounds⟩ <;>
  rcases floatChars_cases b with ⟨whole', places', written', all', rounds'⟩ |
    ⟨mantissa', power', p', written', -, -, read', rounds'⟩ <;>
  rw [written, written'] at same
  · have point : '.' ∉ whole ++ places := fun member => absurd (all _ member) (by decide)
    rw [List.mem_append, not_or] at point
    obtain ⟨rfl, -, rfl⟩ := (List.append_cons_inj_of_notMem point.1 point.2).1 same
    exact rounds.unique rounds'
  · exact absurd same (point_ne_power all)
  · exact absurd same.symm (point_ne_power all')
  · obtain ⟨rfl, -, rfl⟩ := (List.append_cons_inj_of_notMem before after).1 same
    obtain rfl : p = p' := (Prod.mk.inj (Option.some.inj (read.symm.trans read'))).1
    exact rounds.unique rounds'

/-! ## Numbers -/

theorem digits_injective {m n : Nat} (same : digits m = digits n) : m = n := by
  rw [← value_digits m, same, value_digits]

/-- A float is not written with digits only. -/
theorem floatChars_ne_digits (m : Magnitude) (n : Nat) : floatChars m ≠ digits n := by
  intro same
  have all : ∀ c ∈ floatChars m, c.isDigit = true := fun c hc => isDigit_of_mem_digits (same ▸ hc)
  rcases floatChars_cases m with ⟨whole, places, written, -⟩ | ⟨mantissa, power, p, written, -⟩
  · exact absurd (all '.' (written ▸ by simp)) (by decide)
  · exact absurd (all 'e' (written ▸ by simp)) (by decide)

/-- The text of a number that is not negative begins with a digit. -/
theorem floatChars_ne_minus (m : Magnitude) (cs : List Char) : floatChars m ≠ '-' :: cs := by
  obtain ⟨⟨d, ds, written, digit⟩, -⟩ := exists_parts m
  intro same
  rw [written] at same
  rw [(List.cons.inj same).1] at digit
  cases digit

theorem digits_ne_minus (n : Nat) (cs : List Char) : digits n ≠ '-' :: cs :=
  fun same => absurd (isDigit_of_mem_digits (same ▸ List.mem_cons_self)) (by decide)

/-- Different numbers are written differently. -/
theorem chars_injective : Function.Injective Number.chars := by
  intro a b same
  match a, b with
  | .natural m, .natural n => exact congrArg natural (UInt64.toNat_inj.1 (digits_injective same))
  | .negSucc m _, .negSucc n _ =>
    obtain rfl : m = n := Nat.succ.inj (digits_injective (List.cons.inj same).2)
    rfl
  | .float false x, .float false y => rw [floatChars_injective same]
  | .float true x, .float true y => rw [floatChars_injective (List.cons.inj same).2]
  | .natural n, .float false x => exact absurd same.symm (floatChars_ne_digits x n.toNat)
  | .float false x, .natural n => exact absurd same (floatChars_ne_digits x n.toNat)
  | .negSucc n _, .float true x =>
    exact absurd (List.cons.inj same).2.symm (floatChars_ne_digits x (n + 1))
  | .float true x, .negSucc n _ =>
    exact absurd (List.cons.inj same).2 (floatChars_ne_digits x (n + 1))
  | .natural n, .negSucc _ _ | .natural n, .float true _ =>
    exact absurd same (digits_ne_minus n.toNat _)
  | .negSucc _ _, .natural n | .float true _, .natural n =>
    exact absurd same.symm (digits_ne_minus n.toNat _)
  | .float false x, .negSucc _ _ | .float false x, .float true _ =>
    exact absurd same (floatChars_ne_minus x _)
  | .negSucc _ _, .float false x | .float true _, .float false x =>
    exact absurd same.symm (floatChars_ne_minus x _)

end Json.Number

end Reroute
