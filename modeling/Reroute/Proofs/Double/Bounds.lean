import Reroute.Double.Read
import Reroute.Proofs.Double.Shortest

/-!
# Bounds on computed doubles

Rounding at most doubles the quanta of an exact result, so that sums and quotients of numbers that
are small enough stay finite.

## Main definitions

* `Double.AtMost` — a finite number that is not negative, with a bound on its quanta.

## Main results

* `Double.AtMost.add`, `Double.AtMost.div` — bounds on a sum and on a quotient.
* `Double.atMost_toDouble` — a whole number of at most twenty digits is read as a finite one.
-/

namespace Reroute

namespace Decimal

theorem digitOf_lt {c : Char} (h : c.isDigit = true) : digitOf c < 10 := by
  unfold digitOf
  simp only [Char.isDigit, Bool.and_eq_true, decide_eq_true_eq] at h
  have : c.toNat ≤ 57 := h.2
  omega

theorem value_lt (cs : List Char) (h : ∀ c ∈ cs, c.isDigit = true) :
    value cs < 10 ^ cs.length := by
  suffices ∀ n, cs.foldl (fun n c => 10 * n + digitOf c) n < (n + 1) * 10 ^ cs.length by
    simpa [value] using this 0
  induction cs with
  | nil => simp
  | cons c cs ih =>
    intro n
    have hc := digitOf_lt (h c List.mem_cons_self)
    refine Nat.lt_of_lt_of_le (ih (fun d hd => h d (List.mem_cons_of_mem c hd)) _) ?_
    rw [List.length_cons, Nat.pow_succ, Nat.mul_comm (10 ^ _) 10, ← Nat.mul_assoc]
    exact Nat.mul_le_mul_right _ (show 10 * n + digitOf c + 1 ≤ (n + 1) * 10 by omega)

end Decimal

namespace Magnitude

theorem roundQuotient_le (a b : Nat) : roundQuotient a b ≤ 2 * (a / b) + 1 := by
  have hs : 2 ^ spare (a / b) ≤ a / b + 1 := by
    unfold spare
    rcases Nat.eq_zero_or_pos (a / b) with h | h
    · simp [h]
    · refine Nat.le_trans (Nat.pow_le_pow_right (by decide) (Nat.sub_le ..)) ?_
      exact Nat.le_succ_of_le (Nat.log2_self_le (by omega))
  have hn := Decimal.nearest_le a (b * 2 ^ spare (a / b))
  rw [← Nat.div_div_eq_div_mul] at hn
  unfold roundQuotient
  generalize 2 ^ spare (a / b) = s at *
  calc Decimal.nearest a (b * s) * s ≤ (a / b / s + 1) * s := Nat.mul_le_mul_right s hn
    _ = a / b / s * s + s := Nat.succ_mul ..
    _ ≤ a / b + (a / b + 1) := Nat.add_le_add (Nat.div_mul_le_self ..) hs
    _ = 2 * (a / b) + 1 := by omega

theorem eq_zero_of_quanta {m : Magnitude} (h : m.quanta = 0) : m = .zero := by
  obtain ⟨quanta, fits⟩ := m
  cases h
  rfl

/-- What is not zero is not rounded to zero. -/
theorem roundQuotient_pos {n : Nat} (h : 0 < n) : 0 < roundQuotient n 1 := by
  have small : 2 ^ spare n ≤ n := by
    refine Nat.le_trans (Nat.pow_le_pow_right (by decide) (Nat.sub_le ..)) ?_
    exact Nat.log2_self_le (by omega)
  have below := Decimal.le_nearest n (2 ^ spare n)
  have one : 1 ≤ n / 2 ^ spare n := (Nat.one_le_div_iff (Nat.two_pow_pos _)).2 small
  rw [roundQuotient, Nat.div_one, Nat.one_mul]
  exact Nat.mul_pos (Nat.lt_of_lt_of_le one below) (Nat.two_pow_pos _)

/-- One is a power of two, with an exponent that no proof has to compute with. -/
theorem exists_unit_eq : ∃ u, unit = 2 ^ u ∧ u = 1074 := ⟨1074, by unfold unit; rfl, rfl⟩

theorem pow_mul_unit_lt {k : Nat} (h : k ≤ 1000) : 2 ^ k * unit < bound := by
  obtain ⟨u, power, value⟩ := exists_unit_eq
  obtain ⟨b, power', value'⟩ : ∃ b, bound = 2 ^ b ∧ b = 2098 := ⟨2098, by unfold bound; rfl, rfl⟩
  rw [power, power', ← Nat.pow_add]
  exact Nat.pow_lt_pow_right (by decide) (by omega)

/-- Few multiples of a power of two are exact. -/
theorem fits_mul_pow {n s : Nat} (h : n ≤ 2 ^ 53) (hs : 2 ^ s ≤ unit) : Fits (n * 2 ^ s) :=
  ⟨dvd_mul_pow h, Nat.lt_of_le_of_lt (Nat.mul_le_mul h hs) (pow_mul_unit_lt (by decide))⟩

theorem fits_mul_unit {n : Nat} (h : n ≤ 2 ^ 53) : Fits (n * unit) := by
  obtain ⟨s, hs, -⟩ := exists_unit_eq
  rw [hs]
  exact fits_mul_pow h (Nat.le_of_eq hs.symm)

end Magnitude

namespace Double

open Magnitude (unit bound)

theorem ofNat_of_le {n : Nat} (h : n ≤ 2 ^ 53) :
    ofNat n = .finite false ⟨n * unit, Magnitude.fits_mul_unit h⟩ := by
  rw [ofNat, ofRatio]
  exact ofQuanta_one false ⟨n * unit, Magnitude.fits_mul_unit h⟩

/-- The only number with a sign that is not below zero is zero. -/
theorem eq_zero_of_zero_le {m : Magnitude} (h : zero.le (.finite true m) = true) : m = .zero := by
  refine Magnitude.eq_zero_of_quanta ?_
  simpa [le, zero, key?, Magnitude.zero] using h

theorem of_ofQuanta_eq_finite {negative s : Bool} {a b : Nat} {m : Magnitude}
    (h : ofQuanta negative a b = .finite s m) :
    s = negative ∧ m.quanta = Magnitude.roundQuotient a b := by
  unfold ofQuanta at h
  split at h
  · rename_i size found
    obtain ⟨rfl, rfl⟩ := Double.finite.inj h
    unfold Magnitude.ofQuotient? at found
    split at found
    · exact ⟨rfl, congrArg Magnitude.quanta (Option.some.inj found).symm⟩
    · cases found
  · cases h

/-- A rounded quotient is infinite only if it reaches the bound. -/
theorem ofQuanta_cases (negative : Bool) (a b : Nat) :
    (∃ m, ofQuanta negative a b = .finite negative m ∧ m.quanta = Magnitude.roundQuotient a b) ∨
      ofQuanta negative a b = .infinite negative ∧ bound ≤ Magnitude.roundQuotient a b := by
  unfold ofQuanta Magnitude.ofQuotient?
  by_cases fits : Magnitude.roundQuotient a b < bound
  · rw [dif_pos fits]
    exact .inl ⟨_, rfl, rfl⟩
  · rw [dif_neg fits]
    exact .inr ⟨rfl, Nat.not_lt.1 fits⟩

/-- The double of a natural has no sign, and is zero only for zero. -/
theorem of_ofNat_eq_finite {n : Nat} {s : Bool} {m : Magnitude} (h : ofNat n = .finite s m) :
    s = false ∧ (0 < n → m.quanta ≠ 0) := by
  obtain ⟨sign, quanta⟩ := of_ofQuanta_eq_finite h
  refine ⟨sign, fun pos => ?_⟩
  rw [quanta]
  exact Nat.ne_of_gt (Magnitude.roundQuotient_pos (Nat.mul_pos pos Magnitude.unit_pos))

theorem bound_gt : 2 ^ 200 * unit < bound := Magnitude.pow_mul_unit_lt (by decide)

/-- A finite number that is not negative, with at most `n` quanta. -/
def AtMost (n : Nat) (x : Double) : Prop := ∃ m, x = .finite false m ∧ m.quanta ≤ n

theorem atMost_ofQuanta {a b n : Nat} (h : a ≤ n * b) (hn : 2 * n + 1 < bound) :
    AtMost (2 * n + 1) (ofQuanta false a b) := by
  have hr : Magnitude.roundQuotient a b ≤ 2 * n + 1 := by
    have := Nat.div_le_of_le_mul (Nat.mul_comm n b ▸ h)
    have := Magnitude.roundQuotient_le a b
    omega
  simp only [ofQuanta, Magnitude.ofQuotient?, dif_pos (Nat.lt_of_le_of_lt hr hn)]
  exact ⟨_, rfl, hr⟩

theorem AtMost.add {x y : Double} {m n : Nat} (hx : AtMost m x) (hy : AtMost n y)
    (h : 2 * (m + n) + 1 < bound) : AtMost (2 * (m + n) + 1) (x.add y) := by
  obtain ⟨a, rfl, ha⟩ := hx
  obtain ⟨b, rfl, hb⟩ := hy
  simp only [Double.add, if_true]
  exact atMost_ofQuanta (by omega) h

/-- A quotient by a whole number is not larger. -/
theorem AtMost.div {x : Double} {n d : Nat} (hx : AtMost n x) (hd : 0 < d) (hd' : d ≤ 2 ^ 53)
    (h : 2 * n + 1 < bound) : AtMost (2 * n + 1) (x.div (ofNat d)) := by
  obtain ⟨m, rfl, hm⟩ := hx
  have pos : d * unit ≠ 0 := Nat.ne_of_gt (Nat.mul_pos hd Magnitude.unit_pos)
  rw [ofNat_of_le hd', Double.div, if_neg pos]
  refine atMost_ofQuanta ?_ h
  rw [← Nat.mul_assoc]
  exact Nat.mul_le_mul_right _ (Nat.le_trans hm (Nat.le_mul_of_pos_right n hd))

/-- A whole number with at most twenty digits is read as a finite number. -/
theorem atMost_toDouble {c : Nat} (h : c < 10 ^ 20) :
    AtMost (2 ^ 70 * unit) (Decimal.Scaled.toDouble false ⟨c, 0⟩) := by
  have hu := Magnitude.unit_pos
  have hw := Decimal.width_le h (by decide)
  have hb := Magnitude.pow_mul_unit_lt (k := 70) (by decide)
  have hl : Decimal.Scaled.leading ⟨c, 0⟩ = Decimal.width c - 1 := by
    simp [Decimal.Scaled.leading]
  unfold Decimal.Scaled.toDouble
  split
  · exact ⟨_, rfl, Nat.zero_le _⟩
  · rw [if_neg (by omega), if_neg (by omega)]
    have half : c * Decimal.tenNum 0 * unit ≤ (10 ^ 20 * unit) * Decimal.tenDen 0 := by
      rw [show Decimal.tenNum 0 = 1 from rfl, show Decimal.tenDen 0 = 1 from rfl, Nat.mul_one,
        Nat.mul_one]
      exact Nat.mul_le_mul_right _ (Nat.le_of_lt h)
    obtain ⟨m, hm, hle⟩ := atMost_ofQuanta half (by omega)
    exact ⟨m, hm, by omega⟩

end Double

end Reroute
