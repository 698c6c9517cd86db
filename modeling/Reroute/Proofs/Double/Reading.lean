import Reroute.Proofs.Double.Grid
import Reroute.Proofs.Double.Split

/-!
# Doubles are read back

A decimal is read as the magnitude that it rounds to, and digits with a point among them stand for
the decimal that they show. So a double is read back from its shortest spelling, and from every one
whose places are enough.

## Main definitions

* `Magnitude.SpelledBy` — digits with a point show a decimal that rounds to a magnitude.

## Main results

* `Decimal.Scaled.toDouble_of_roundedFrom` — a decimal is read as the magnitude that it rounds to.
* `Magnitude.SpelledBy.read?` — what spells a magnitude is read as it.
* `Double.read?_positional` — every finite double is read back from its shortest spelling.
-/

namespace Reroute

open Magnitude (unit)

/-! ## Decimals out of reach -/

namespace Decimal.Scaled

variable {d : Nat} {k : Int} {m : Magnitude}

/-- A decimal is at least the power of ten of its first digit. -/
theorem pow_mul_tenDen_le {i : Nat} (pos : 0 < d) (h : i ≤ leading ⟨d, k⟩) :
    10 ^ i * tenDen k ≤ d * tenNum k := by
  have wide : 0 < width d := List.length_pos_iff.2 (digits_ne_nil d)
  have low := pow_width_le pos
  obtain ⟨j, shift⟩ : ∃ j : Nat, k = (j : Int) - (width d - 1 : Nat) :=
    ⟨(k + (width d - 1 : Nat)).toNat, by simp only [leading] at h; omega⟩
  have same := tenNum_mul j (width d - 1) k shift
  calc 10 ^ i * tenDen k
      ≤ 10 ^ j * tenDen k := Nat.mul_le_mul_right _ (Nat.pow_le_pow_right (by decide) (by
        simp only [leading] at h
        omega))
    _ = 10 ^ (width d - 1) * tenNum k := by rw [Nat.mul_comm, ← same, Nat.mul_comm]
    _ ≤ d * tenNum k := Nat.mul_le_mul_right _ low

/-- It is below the next power of ten. -/
theorem mul_tenNum_lt {i : Nat} (h : leading ⟨d, k⟩ < -i) : d * tenNum k * 10 ^ i < tenDen k := by
  have wide : 0 < width d := List.length_pos_iff.2 (digits_ne_nil d)
  have small : width d + i ≤ (-k).toNat := by
    simp only [leading] at h
    omega
  have one : tenNum k = 1 := by
    unfold tenNum
    rw [show k.toNat = 0 by omega]
  calc d * tenNum k * 10 ^ i
      = d * 10 ^ i := by rw [one, Nat.mul_one]
    _ < 10 ^ width d * 10 ^ i :=
      Nat.mul_lt_mul_of_pos_right (lt_pow_width d) (Nat.pow_pos (by decide))
    _ = 10 ^ (width d + i) := (Nat.pow_add ..).symm
    _ ≤ tenDen k := Nat.pow_le_pow_right (by decide) small

/-- What rounds to a magnitude is not too large to be read. -/
theorem leading_le_of_roundedFrom (pos : 0 < d) (h : m.RoundedFrom d k) : leading ⟨d, k⟩ ≤ 400 := by
  refine Int.le_of_not_gt fun greater => ?_
  have large := pow_mul_tenDen_le (i := 400) pos (Int.le_of_lt greater)
  have most : 4 * m.quanta + m.reachUp < 10 ^ 400 * (4 * unit) := by
    have finite := m.fits.2
    have bounded : 6 * Magnitude.bound + 2 < 10 ^ 400 * (4 * unit) := by
      unfold Magnitude.bound unit
      decide +kernel
    have gap : m.gap ≤ m.quanta + 1 := by
      by_cases none : m.quanta = 0
      · simp [Magnitude.gap, none, Magnitude.spare]
      · exact Nat.le_succ_of_le (Magnitude.gap_le none)
    unfold Magnitude.reachUp
    generalize 10 ^ 400 * (4 * unit) = n at *
    omega
  generalize 10 ^ 400 = p at *
  have beyond := Nat.mul_lt_mul_of_pos_right most (tenDen_pos k)
  rw [Nat.mul_right_comm] at beyond
  exact Nat.not_le_of_lt (Nat.lt_of_lt_of_le beyond (Nat.mul_le_mul_right _ large)) h.between.2

/-- What is too small to be read rounds to zero. -/
theorem eq_zero_of_leading_lt (h : m.RoundedFrom d k) (small : leading ⟨d, k⟩ < -400) :
    m.quanta = 0 := by
  refine Decidable.byContradiction fun some => ?_
  have tiny := mul_tenNum_lt (i := 400) small
  have least : 1 ≤ 4 * m.quanta - m.reachDown := by
    have := Magnitude.gap_le some
    unfold Magnitude.reachDown
    split <;> omega
  have ends : tenDen k ≤ d * tenNum k * (4 * unit) :=
    Nat.le_trans (Nat.le_mul_of_pos_left _ least) h.between.1
  have units : 4 * unit ≤ 10 ^ 400 := by
    unfold unit
    decide +kernel
  have most := Nat.mul_le_mul_left (d * tenNum k) units
  omega

/-- A decimal is read as the magnitude that it rounds to. -/
theorem toDouble_of_roundedFrom (s : Bool) (h : m.RoundedFrom d k) :
    toDouble s ⟨d, k⟩ = .finite s m := by
  unfold toDouble
  split
  · rename_i none
    rw [Magnitude.eq_zero_of_quanta (Decidable.byContradiction fun some =>
      Nat.ne_of_gt (h.pos some) none)]
  · rename_i some
    rw [if_neg (Int.not_lt.2 (leading_le_of_roundedFrom (Nat.pos_of_ne_zero some) h))]
    split
    · rename_i small
      rw [Magnitude.eq_zero_of_quanta (eq_zero_of_leading_lt h small)]
    · exact Double.ofQuanta_of_roundQuotient s (Magnitude.roundedFrom_iff.1 h)

end Decimal.Scaled

/-! ## Digits with a point -/

namespace Numeral

open Decimal (value)

variable {ds fs : List Char}

theorem read?_whole (some : ds ≠ []) (digits : ∀ c ∈ ds, c.isDigit = true) :
    read? ds = .some ⟨value ds, 0⟩ := by
  have span : spanDigits (ds ++ []) = (ds, []) := spanDigits_append digits (by simp)
  rw [List.append_nil] at span
  simp [read?, span, some, power?]

theorem read?_point (some : ds ≠ []) (digits : ∀ c ∈ ds ++ fs, c.isDigit = true) :
    read? (ds ++ '.' :: fs) = .some ⟨value (ds ++ fs), -fs.length⟩ := by
  have whole : spanDigits (ds ++ '.' :: fs) = (ds, '.' :: fs) :=
    spanDigits_append (fun c hc => digits c (List.mem_append_left _ hc)) (by simp)
  have places : spanDigits (fs ++ []) = (fs, []) :=
    spanDigits_append (fun c hc => digits c (List.mem_append_right _ hc)) (by simp)
  rw [List.append_nil] at places
  simp [read?, whole, places, some, power?]

/-- A sign is taken off digits. -/
theorem spanSign_signText (s : Bool) (rest : List Char) (some : ds ≠ [])
    (digits : ∀ c ∈ ds, c.isDigit = true) :
    spanSign (Double.signText s ++ (ds ++ rest)) = (s, ds ++ rest) := by
  cases ds with
  | nil => exact absurd rfl some
  | cons d ds =>
    have digit := digits d List.mem_cons_self
    cases s with
    | true => rfl
    | false =>
      unfold spanSign Double.signText
      split <;> simp_all [Char.isDigit]

end Numeral

/-! ## Spellings -/

open Decimal (nearest value)

/-- Digits, with a point after some of them or without, that show a decimal which rounds to a
magnitude. -/
inductive Magnitude.SpelledBy (m : Magnitude) : List Char → Prop where
  | whole {ds : List Char} (some : ds ≠ []) (digits : ∀ c ∈ ds, c.isDigit = true)
    (rounds : m.RoundedFrom (value ds) 0) : m.SpelledBy ds
  | point {ds fs : List Char} (some : ds ≠ []) (digits : ∀ c ∈ ds ++ fs, c.isDigit = true)
    (rounds : m.RoundedFrom (value (ds ++ fs)) (-fs.length)) : m.SpelledBy (ds ++ '.' :: fs)

namespace Magnitude

variable {m : Magnitude} {cs : List Char}

theorem SpelledBy.point_or_isDigit (h : m.SpelledBy cs) :
    ∀ c ∈ cs, c = '.' ∨ c.isDigit = true := by
  intro c hc
  cases h with
  | whole some digits rounds => exact .inr (digits c hc)
  | point some digits rounds =>
    rcases List.mem_append.1 hc with before | after
    · exact .inr (digits c (List.mem_append_left _ before))
    · exact (List.mem_cons.1 after).imp_right fun after =>
        digits c (List.mem_append_right _ after)

/-- What spells a magnitude is read as it. -/
theorem SpelledBy.read? (s : Bool) (h : m.SpelledBy cs) :
    Double.read? (Double.signText s ++ cs) = some (.finite s m) := by
  cases h with
  | whole some digits rounds =>
    have sign := Numeral.spanSign_signText s [] some digits
    rw [List.append_nil] at sign
    simp only [Double.read?, sign, Numeral.read?_whole some digits,
      Decimal.Scaled.toDouble_of_roundedFrom s rounds]
  | point some digits rounds =>
    have sign := fun rest => Numeral.spanSign_signText s rest some fun c hc =>
      digits c (List.mem_append_left _ hc)
    simp only [Double.read?, sign, Numeral.read?_point some digits,
      Decimal.Scaled.toDouble_of_roundedFrom s rounds]

/-- A magnitude is spelled by its shortest decimal. -/
theorem spelledBy_positional (m : Magnitude) : m.SpelledBy m.shortest.positional := by
  by_cases zero : m.quanta = 0
  · rw [eq_zero_of_quanta zero]
    have written : Magnitude.zero.shortest.positional = ['0'] := by decide +kernel
    have nothing : value ['0'] = 0 := rfl
    rw [written]
    refine .whole (by simp) (by simp [Char.isDigit]) ?_
    rw [nothing, roundedFrom_iff]
    simp [roundQuotient, nearest, Magnitude.zero]
  · have rounds := roundedFrom_shortest zero
    obtain ⟨begins, places, shown⟩ := Decimal.Scaled.split_spec (rounds.pos zero)
    have some : m.shortest.split.1 ≠ [] := fun none => begins (.inl none)
    have digits : ∀ c ∈ m.shortest.split.1 ++ m.shortest.split.2, c.isDigit = true := fun c =>
      Decimal.isDigit_of_mem_split
    have shift : -((-m.shortest.exponent).toNat : Int) + m.shortest.exponent.toNat =
        m.shortest.exponent := by omega
    rw [← shift, ← roundedFrom_shift, ← shown, ← places] at rounds
    unfold Decimal.Scaled.positional
    generalize m.shortest.split = parts at *
    obtain ⟨whole, fraction⟩ := parts
    cases fraction with
    | nil => exact .whole some (by simpa using digits) (by simpa using rounds)
    | cons c fraction => exact .point some digits rounds

/-- A magnitude is spelled by a number of units of `10 ^ -places` that rounds to it. -/
theorem spelledBy_placesText {places n : Nat} (some : 0 < places)
    (h : m.RoundedFrom n (-places)) : m.SpelledBy (Double.placesText places n) := by
  have filled : (Decimal.padded places (n % 10 ^ places)).length = places :=
    Decimal.length_padded some (Nat.mod_lt _ (Nat.pow_pos (by decide)))
  have shown : value (Decimal.digits (n / 10 ^ places) ++ Decimal.padded places (n % 10 ^ places)) =
      n := by
    rw [Decimal.value_append_eq, filled, Decimal.value_digits, Decimal.value_padded,
      Nat.div_add_mod']
  rw [Double.placesText, if_neg (Nat.ne_of_gt some)]
  refine .point (Decimal.digits_ne_nil _) (fun c hc => ?_) (by rwa [shown, filled])
  exact (List.mem_append.1 hc).elim Decimal.isDigit_of_mem_digits Decimal.isDigit_of_mem_padded

end Magnitude

/-- Every finite double is read back from its shortest spelling. -/
theorem Double.read?_positional (s : Bool) (m : Magnitude) :
    read? (finite s m).positional = some (finite s m) :=
  m.spelledBy_positional.read? s

end Reroute
