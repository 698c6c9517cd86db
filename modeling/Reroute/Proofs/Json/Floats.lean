import Reroute.Proofs.Double.Grid
import Reroute.Proofs.Double.Split

/-!
# How floats are read

A float is written by position or with a power of ten. It is read as a whole number first, which is
then scaled by the power of ten that its places and its exponent ask for. With few digits and places
the first step is exact, so that only one rounding takes place, and that is the one by which the
shortest decimal was chosen.

## Main results

* `Json.Number.read?_point`, `Json.Number.read?_whole` — the whole number and what follows it.
* `Json.Number.exists_parts` — every float is read as a whole number and a power of ten.
* `Json.Number.read?_float_of_few` — floats with few digits and places are read back.
-/

namespace Reroute

open Magnitude (unit)

namespace Json.Number

open Decimal

/-! ## Reading -/

section Reading

variable {whole places rest : List Char}

theorem read?_of_digit {c : Char} (digit : c.isDigit = true) (cs : List Char) :
    read? (c :: cs) = readUnsigned? false (c :: cs) := by
  rw [read?.eq_def]
  split
  · rename_i sign
    rw [(List.cons.inj sign).1] at digit
    cases digit
  · rfl

theorem Begins.cons (begins : Begins whole) : ∃ c cs, whole = c :: cs := by
  cases whole with
  | nil => exact absurd (.inl rfl) begins
  | cons c cs => exact ⟨c, cs, rfl⟩

/-- Digits with a point between them are read as a whole number, and their places lower the power of
ten. -/
theorem read?_point (begins : Begins whole) (some : places ≠ [])
    (digits : ∀ c ∈ whole ++ places, c.isDigit = true) (fits : value (whole ++ places) < 2 ^ 64)
    (ends : ∀ c ∈ rest.head?, c.isDigit = false) :
    read? (whole ++ '.' :: (places ++ rest)) =
      readFloat? false (value (whole ++ places)) (-places.length) rest := by
  have front : ∀ c ∈ whole, c.isDigit = true := fun c hc => digits c (List.mem_append_left _ hc)
  have back : ∀ c ∈ places, c.isDigit = true := fun c hc => digits c (List.mem_append_right _ hc)
  have span : Numeral.spanDigits (whole ++ '.' :: (places ++ rest)) =
      (whole, '.' :: (places ++ rest)) := by
    refine Numeral.spanDigits_append front fun c hc => ?_
    obtain rfl : '.' = c := by simpa using hc
    rfl
  have fraction := Numeral.spanDigits_append back ends
  rw [value_append] at fits ⊢
  have taken : takeWord 0 whole = (value whole, []) :=
    takeWord_of_lt whole 0 (Nat.lt_of_le_of_lt (le_foldl_value places _) fits)
  have all := takeWord_of_lt places (value whole) fits
  obtain ⟨c, cs, rfl⟩ := begins.cons
  rw [List.cons_append, read?_of_digit (front c List.mem_cons_self), ← List.cons_append,
    readUnsigned?_of_point span begins taken fraction, if_neg some, all]
  simp only [List.length_nil, Int.sub_zero, Int.zero_sub, Int.natCast_zero]

/-- Digits before a power of ten are read as a whole number. -/
theorem read?_whole (begins : Begins whole) (digits : ∀ c ∈ whole, c.isDigit = true)
    (fits : value whole < 2 ^ 64) :
    read? (whole ++ 'e' :: rest) = readFloat? false (value whole) 0 ('e' :: rest) := by
  have span : Numeral.spanDigits (whole ++ 'e' :: rest) = (whole, 'e' :: rest) := by
    refine Numeral.spanDigits_append digits fun c hc => ?_
    obtain rfl : 'e' = c := by simpa using hc
    rfl
  have taken : takeWord 0 whole = (value whole, []) := takeWord_of_lt whole 0 fits
  obtain ⟨c, cs, rfl⟩ := begins.cons
  rw [List.cons_append, read?_of_digit (digits c List.mem_cons_self), ← List.cons_append,
    readUnsigned?_of_span span begins taken (by simp), if_pos (.inl rfl)]
  rfl

/-- Where a numeral ends, its power of ten is the one that its places ask for. -/
theorem readFloat?_of_ends (ends : EndsNumeral rest) (n : Nat) (e : Int) :
    readFloat? false n e rest = (readParts? false n e).map fun w => (w, rest) := by
  cases rest with
  | nil =>
    simp only [readFloat?]
    cases readParts? false n e <;> rfl
  | cons c rest =>
    obtain ⟨-, -, lower, upper⟩ := ends c rfl
    simp only [readFloat?, if_neg (not_or.2 ⟨lower, upper⟩)]
    cases readParts? false n e <;> rfl

/-- A power of ten is read as it is written. -/
theorem readPower?_chars (ends : EndsNumeral rest) (p : Int) :
    readPower? ((if p < 0 then '-' :: digits (-p).toNat else '+' :: digits p.toNat) ++ rest) =
      some (p, rest) := by
  have span (k : Nat) : Numeral.spanDigits (digits k ++ rest) = (digits k, rest) :=
    Numeral.spanDigits_append (fun c => isDigit_of_mem_digits) fun c hc => (ends c hc).1
  split
  · simp only [readPower?, List.cons_append, Numeral.spanSign, span, if_neg (digits_ne_nil _),
      value_digits, if_true]
    rw [show -((-p).toNat : Int) = p by omega]
  · simp only [readPower?, List.cons_append, Numeral.spanSign, span, if_neg (digits_ne_nil _),
      value_digits, Bool.false_eq_true, if_false]
    rw [show (p.toNat : Int) = p by omega]

/-- The power of ten that is written for a whole number. -/
theorem readFloat?_power (ends : EndsNumeral rest) (n : Nat) (e p : Int) :
    readFloat? false n e ('e' :: ((if p < 0 then '-' :: digits (-p).toNat
      else '+' :: digits p.toNat) ++ rest)) =
        (readParts? false n (e + p)).map fun w => (w, rest) := by
  have power := readPower?_chars ends p
  simp only [readFloat?, true_or, if_true, power]
  cases hr : readParts? false n (e + p) <;> simp [hr]

end Reading

/-- A whole number and a few places are read with one rounding. -/
theorem readParts?_of_few {a f : Nat} (ha : a ≤ 2 ^ 53) (pos : 0 < f) (few : f ≤ 15) {m : Magnitude}
    (h : Magnitude.roundQuotient (a * unit) (10 ^ f) = m.quanta) :
    readParts? false a (-f) = some (.float false m) := by
  have power : 10 ^ f ≤ 2 ^ 53 :=
    Nat.le_trans (Nat.pow_le_pow_right (by decide) few) (by decide)
  have quotient : (Double.ofNat a).div (.ofNat (10 ^ f)) = .finite false m := by
    rw [Double.ofNat_of_le ha, Double.finite_div_ofNat _ _ (Nat.pow_pos (by decide)) power]
    exact Double.ofQuanta_of_roundQuotient false h
  have scaled : scale? (.ofNat a) (-f) = some (.finite false m) := by
    have near : (-(f : Int)).natAbs ≤ 308 := by omega
    have below : ¬0 ≤ -(f : Int) := by omega
    rw [scale?, if_pos near, if_neg below, Int.natAbs_neg, Int.natAbs_natCast]
    simp only [quotient]
    rfl
  rw [readParts?, scaled]
  rfl

/-! ## Floats -/

section Floats

variable {m : Magnitude}

/-- A float that is written by position has a place at least. -/
theorem floatChars_of_point (hm : m.quanta ≠ 0) (point : pointRange m.shortest.leading = true) :
    ∃ whole places, floatChars m = whole ++ '.' :: places ∧ Begins whole ∧
      (∀ c ∈ whole ++ places, c.isDigit = true) ∧
      places.length = max 1 (-m.shortest.exponent).toNat ∧
      value (whole ++ places) =
        m.shortest.coefficient * 10 ^ (m.shortest.exponent + places.length).toNat := by
  obtain ⟨begins, length, total⟩ := Scaled.split_spec ((Magnitude.roundedFrom_shortest hm).pos hm)
  have digits (c : Char) := isDigit_of_mem_split (x := m.shortest) (c := c)
  unfold floatChars
  rw [if_pos point]
  generalize m.shortest.split = parts at *
  obtain ⟨whole, fraction⟩ := parts
  generalize m.shortest.coefficient = c at *
  generalize m.shortest.exponent = e at *
  cases fraction with
  | nil =>
    have none : (-e).toNat = 0 := length.symm
    have zeros : (e + 1).toNat = e.toNat + 1 := by omega
    refine ⟨whole, ['0'], rfl, begins, fun d hd => ?_, ?_, ?_⟩
    · rcases List.mem_append.1 hd with hd | hd
      · exact digits d (List.mem_append_left _ hd)
      · rw [List.mem_singleton.1 hd]
        rfl
    · rw [none]
      rfl
    · have zero : digitOf '0' = 0 := rfl
      rw [List.append_nil] at total
      rw [value_append_singleton, total, zero, List.length_singleton, Int.natCast_one, zeros,
        Nat.pow_succ, Nat.add_zero, Nat.mul_comm, Nat.mul_assoc]
  | cons d places =>
    have some : (-e).toNat = places.length + 1 := length.symm
    refine ⟨whole, d :: places, rfl, begins, digits, ?_, ?_⟩
    · rw [length]
      omega
    · rw [total, length, show (e + (-e).toNat).toNat = e.toNat by omega]

/-- A decimal with at most fifteen digits and five places is written by position. -/
theorem pointRange_of_few {x : Scaled} (pos : 0 < x.coefficient) (places : -5 ≤ x.exponent)
    (digits : x.coefficient * 10 ^ (x.exponent + max 1 (-x.exponent).toNat).toNat ≤ 10 ^ 15) :
    pointRange x.leading = true := by
  have first := pow_width_le pos
  have width : 0 < width x.coefficient := List.length_pos_iff.2 (digits_ne_nil _)
  have total : 10 ^ (Decimal.width x.coefficient - 1 +
      (x.exponent + max 1 (-x.exponent).toNat).toNat) ≤ 10 ^ 15 := by
    rw [Nat.pow_add]
    exact Nat.le_trans (Nat.mul_le_mul_right _ first) digits
  have most := (Nat.pow_le_pow_iff_right (by decide)).1 total
  have low : -5 ≤ x.leading := by
    unfold Scaled.leading
    omega
  have high : x.leading < 16 := by
    unfold Scaled.leading
    omega
  simp [pointRange, low, high]

/-- Floats with at most fifteen digits and five places are read back. -/
theorem read?_float_of_few (hm : m.quanta ≠ 0) (places : -5 ≤ m.shortest.exponent)
    (digits : m.shortest.coefficient *
      10 ^ (m.shortest.exponent + max 1 (-m.shortest.exponent).toNat).toNat ≤ 10 ^ 15) :
    read? (Number.float false m).chars = some (.float false m, []) := by
  have point := pointRange_of_few ((Magnitude.roundedFrom_shortest hm).pos hm) places digits
  obtain ⟨whole, fs, written, begins, all, length, total⟩ := floatChars_of_point hm point
  have rounds := Magnitude.roundedFrom_iff.1 (Magnitude.roundedFrom_shortest hm)
  have few : fs.length ≤ 15 := by omega
  have pos : 0 < fs.length := by omega
  rw [← length, ← total] at digits
  have powers : 10 ^ (m.shortest.exponent + fs.length).toNat * tenDen m.shortest.exponent =
      tenNum m.shortest.exponent * 10 ^ fs.length := by
    unfold tenNum tenDen
    rw [← Nat.pow_add, ← Nat.pow_add]
    congr 1
    omega
  have same : value (whole ++ fs) * unit * tenDen m.shortest.exponent =
      m.shortest.coefficient * tenNum m.shortest.exponent * unit * 10 ^ fs.length := by
    rw [total]
    calc m.shortest.coefficient * 10 ^ (m.shortest.exponent + fs.length).toNat * unit *
          tenDen m.shortest.exponent
        = m.shortest.coefficient * unit *
          (10 ^ (m.shortest.exponent + fs.length).toNat * tenDen m.shortest.exponent) := by ac_rfl
      _ = m.shortest.coefficient * tenNum m.shortest.exponent * unit * 10 ^ fs.length := by
        rw [powers]
        ac_rfl
  rw [← Magnitude.roundQuotient_congr (Nat.pow_pos (by decide)) (tenDen_pos _) same] at rounds
  have value := readParts?_of_few (Nat.le_trans digits (by decide)) pos few rounds
  have some : fs ≠ [] := List.length_pos_iff.1 pos
  have read : read? (whole ++ '.' :: (fs ++ [])) = readFloat? false _ _ [] :=
    read?_point begins some all (Nat.lt_of_le_of_lt digits (by decide)) nofun
  rw [readFloat?_of_ends (by simp [EndsNumeral]), value, List.append_nil] at read
  rw [chars, Double.signText, if_neg (by decide), List.nil_append, written, read]
  rfl

/-- What is written by position has digits that a word can take. -/
theorem point_lt {x : Scaled} (bound : x.coefficient ≤ 10 ^ 17)
    (point : pointRange x.leading = true) :
    x.coefficient * 10 ^ (x.exponent + max 1 (-x.exponent).toNat).toNat < 2 ^ 64 := by
  have high : x.leading < 16 := by
    simp only [pointRange, Bool.and_eq_true] at point
    exact of_decide_eq_true point.2
  have digits := lt_pow_width x.coefficient
  unfold Scaled.leading at high
  by_cases places : x.exponent < 0
  · rw [show (x.exponent + max 1 (-x.exponent).toNat).toNat = 0 by omega]
    omega
  · have one : (x.exponent + max 1 (-x.exponent).toNat).toNat = x.exponent.toNat + 1 := by omega
    rw [one]
    calc x.coefficient * 10 ^ (x.exponent.toNat + 1)
        < 10 ^ width x.coefficient * 10 ^ (x.exponent.toNat + 1) :=
          Nat.mul_lt_mul_of_pos_right digits (Nat.pow_pos (by decide))
      _ = 10 ^ (width x.coefficient + (x.exponent.toNat + 1)) := (Nat.pow_add ..).symm
      _ ≤ 10 ^ 17 := Nat.pow_le_pow_right (by decide) (by omega)
      _ < 2 ^ 64 := by decide

/-- Every float is read as a whole number and a power of ten, wherever it is written. -/
theorem exists_parts (m : Magnitude) :
    (∃ c cs, floatChars m = c :: cs ∧ c.isDigit = true) ∧
      ∃ n e, ∀ rest, EndsNumeral rest →
        read? (floatChars m ++ rest) = (readParts? false n e).map fun w => (w, rest) := by
  have ends {rest : List Char} (h : EndsNumeral rest) : ∀ c ∈ rest.head?, c.isDigit = false :=
    fun c hc => (h c hc).1
  by_cases zero : m.quanta = 0
  · rw [Magnitude.eq_zero_of_quanta zero]
    have written : floatChars .zero = ['0'] ++ '.' :: ['0'] := by decide +kernel
    refine ⟨⟨'0', ['.', '0'], written, rfl⟩, 0, -1, fun rest h => ?_⟩
    have digits : ∀ c ∈ ['0'] ++ ['0'], c.isDigit = true := fun c hc => by
      rw [List.eq_of_mem_replicate (n := 2) hc]
      rfl
    have read : read? (['0'] ++ '.' :: (['0'] ++ rest)) = readFloat? false 0 (-1) rest :=
      read?_point (by simp [Begins]) (by simp) digits (by decide) (ends h)
    rw [readFloat?_of_ends h] at read
    exact (congrArg (fun cs => read? (cs ++ rest)) written).trans read
  have bound := m.shortest_coefficient_le
  by_cases point : pointRange m.shortest.leading = true
  · obtain ⟨whole, places, written, begins, digits, length, total⟩ := floatChars_of_point zero point
    have some : places ≠ [] := List.length_pos_iff.1 (by omega)
    have fits := point_lt bound point
    rw [← length, ← total] at fits
    obtain ⟨c, cs, hc⟩ := begins.cons
    refine ⟨⟨c, cs ++ '.' :: places, by rw [written, hc, List.cons_append], ?_⟩,
      value (whole ++ places), -places.length, fun rest h => ?_⟩
    · exact digits c (List.mem_append_left _ (hc ▸ List.mem_cons_self))
    · rw [written, List.append_assoc, List.cons_append,
        read?_point begins some digits fits (ends h), readFloat?_of_ends h]
  · have written : floatChars m = m.shortest.withPower := if_neg point
    have digit : ∀ c ∈ digits m.shortest.coefficient, c.isDigit = true :=
      fun c => isDigit_of_mem_digits
    have some := digits_ne_nil m.shortest.coefficient
    have fits : value (digits m.shortest.coefficient) < 2 ^ 64 := by
      rw [value_digits]
      exact Nat.lt_of_le_of_lt bound (by decide)
    rw [written, Scaled.withPower]
    generalize digits m.shortest.coefficient = ds at *
    match ds with
    | [] => exact absurd rfl some
    | [d] =>
      refine ⟨⟨d, _, rfl, digit d List.mem_cons_self⟩, value [d], 0 + m.shortest.leading,
        fun rest h => ?_⟩
      rw [← readFloat?_power h]
      exact read?_whole (by simp [Begins]) digit fits
    | d :: c :: ds =>
      refine ⟨⟨d, _, rfl, digit d List.mem_cons_self⟩, value ([d] ++ c :: ds),
        -(c :: ds).length + m.shortest.leading, fun rest h => ?_⟩
      rw [← readFloat?_power h]
      refine Eq.trans ?_ (read?_point (by simp [Begins]) (by simp) digit fits (by simp))
      simp

end Floats

end Json.Number

end Reroute
