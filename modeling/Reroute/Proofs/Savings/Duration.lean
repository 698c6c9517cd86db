import Mathlib.Algebra.Order.Floor.Semifield
import Mathlib.Tactic.FieldSimp
import Mathlib.Tactic.Linarith
import Reroute.Proofs.Double.Value
import Reroute.Proofs.Double.Whole
import Reroute.Savings

/-!
# How saved time is shown

A time is split into days, hours and minutes by quotients that are rounded before their whole parts
are taken. Nothing is lost by this: as long as the minutes of the next day are an exact double, the
time that is shown is the exact one. So it is for all counts of redirects whose minutes are exact.

## Main definitions

* `Savings.Span` — a time as it is shown, `Savings.Span.chars` — its text.
* `Savings.Span.Exact` — a time is shown without loss, `Savings.Span.Proper` — no smaller unit makes
  up a larger one.

## Main results

* `Savings.Span.Exact.unique` — a time is shown without loss in one way only.
* `Savings.exists_span` — what is shown of a time.
* `Savings.durationLabel_exact` — the time saved by redirects is shown exactly.
-/

namespace Reroute

open Magnitude (unit)

namespace Savings

/-- A time as it is shown: minutes in tenths, hours and minutes, or days and hours. -/
inductive Span where
  | minutes (tenths : Nat)
  | hours (hours minutes : Nat)
  | days (days hours : Nat)
  deriving DecidableEq

/-- The text of a number of units, and of what is left for smaller ones unless it is zero. -/
def Span.units (whole : Nat) (letter : Char) (rest : Nat) (smaller : Char) : List Char :=
  Decimal.digits whole ++ letter ::
    if rest = 0 then [] else ' ' :: (Decimal.digits rest ++ [smaller])

/-- The text of a time. Minutes alone have one place. -/
def Span.chars : Span → List Char
  | .minutes tenths => Double.placesText 1 tenths ++ ['m']
  | .hours whole rest => units whole 'h' rest 'm'
  | .days whole rest => units whole 'd' rest 'h'

/-- The text shows a time of `t` minutes without loss, but for what is less than the smaller one of
its units. -/
inductive Span.Exact (t : ℚ) : Span → Prop where
  | minutes {tenths : ℕ} (below : t < 60) (figure : tenths = 10 * t) : Exact t (.minutes tenths)
  | hours {hours rest : ℕ} (above : 60 ≤ t) (below : t < 1440) (whole : hours = ⌊t / 60⌋₊)
    (left : 60 * hours + rest = ⌊t⌋₊) : Exact t (.hours hours rest)
  | days {days rest : ℕ} (above : 1440 ≤ t) (whole : days = ⌊t / 1440⌋₊)
    (left : rest = ⌊(t - 1440 * days) / 60⌋₊) : Exact t (.days days rest)

/-- A time is shown without loss in one way only. -/
theorem Span.Exact.unique {t : ℚ} {span span' : Span} (h : span.Exact t) (h' : span'.Exact t) :
    span = span' := by
  cases h with
  | minutes below figure =>
    cases h' with
    | minutes below' figure' =>
      rw [← figure'] at figure
      rw [Nat.cast_inj.1 figure]
    | hours above | days above => linarith
  | hours above below whole left =>
    cases h' with
    | minutes below' => linarith
    | hours above' below' whole' left' =>
      obtain rfl := whole.trans whole'.symm
      rw [Nat.add_left_cancel (left.trans left'.symm)]
    | days above' => linarith
  | days above whole left =>
    cases h' with
    | minutes below' => linarith
    | hours above' below' => linarith
    | days above' whole' left' =>
      obtain rfl := whole.trans whole'.symm
      rw [left, left']

/-- What is shown of a smaller unit does not make up a larger one, and what is shown of a larger one
is not zero. -/
def Span.Proper : Span → Prop
  | .minutes tenths => tenths < 600
  | .hours whole rest => 0 < whole ∧ whole < 24 ∧ rest < 60
  | .days whole rest => 0 < whole ∧ rest < 24

/-! ## Any time -/

variable {m : Magnitude}

theorem lt_hour : (Double.finite false m).lt 60 = decide (m.quanta / unit < 60) :=
  Double.finite_lt_ofNat m (by decide)

theorem lt_day : (Double.finite false m).lt 1440 = decide (m.quanta / unit < 1440) :=
  Double.finite_lt_ofNat m (by decide)

theorem durationChars_minutes (below : m.quanta / unit < 60) :
    durationChars (.finite false m) = (Span.minutes (m.inPlaces 1)).chars := by
  rw [durationChars, lt_hour, if_pos (decide_eq_true below)]
  rfl

/-- Both numbers are written with their own digits if they are small. -/
theorem units_eq {x y : Double} {i j : Nat} (hx : x.IsWhole i) (hy : y.IsWhole j)
    (small : j < 2 ^ 53) (c d : Char) :
    ∃ k, x.positional ++ c :: (if y.eqv 0 then [] else ' ' :: (y.positional ++ [d])) =
        Span.units k c j d ∧ (0 < i → 0 < k) ∧ (i < 2 ^ 53 → k = i) := by
  obtain ⟨k, text, some, same⟩ := hx.positional
  obtain ⟨l, text', -, same'⟩ := hy.positional
  refine ⟨k, ?_, some, same⟩
  rw [text, text', same' small, hy.eqv_zero]
  simp [Span.units]

/-- Hours and minutes are exact. -/
theorem durationChars_hours (above : 60 ≤ m.quanta / unit) (below : m.quanta / unit < 1440) :
    durationChars (.finite false m) =
      (Span.hours (m.quanta / unit / 60) (m.quanta / unit % 60)).chars := by
  obtain ⟨i, hours, -, exact⟩ := Double.isWhole_floor_div m (d := 60) (by decide) (by decide)
  obtain ⟨r, rem, left⟩ := Double.exists_rem m (d := 60) (by decide) (by decide)
  have minutes := Double.isWhole_floor r
  rw [← rem, left] at minutes
  rw [exact (by omega)] at hours
  obtain ⟨k, text, -, same⟩ := units_eq hours minutes (by omega) 'h' 'm'
  rw [same (by omega)] at text
  rw [durationChars, lt_hour, lt_day, if_neg (by simpa using above), if_pos (decide_eq_true below)]
  exact text

/-- From a day on the hours are exact. The days are, too, unless they are very many. -/
theorem durationChars_days (above : 1440 ≤ m.quanta / unit) :
    ∃ days, durationChars (.finite false m) =
        (Span.days days (m.quanta / unit % 1440 / 60)).chars ∧ 0 < days ∧
      (m.quanta / unit + 1440 ≤ 2 ^ 53 → days = m.quanta / unit / 1440) := by
  obtain ⟨i, days, some, exact⟩ := Double.isWhole_floor_div m (d := 1440) (by decide) (by decide)
  obtain ⟨r, rem, left⟩ := Double.exists_rem m (d := 1440) (by decide) (by decide)
  obtain ⟨j, hours, -, exact'⟩ := Double.isWhole_floor_div r (d := 60) (by decide) (by decide)
  rw [left] at exact'
  rw [← rem, exact' (by omega)] at hours
  obtain ⟨k, text, positive, same⟩ := units_eq days hours (by omega) 'd' 'h'
  refine ⟨k, ?_, positive (some above), fun small => ?_⟩
  · rw [durationChars, lt_hour, lt_day, if_neg (by rw [decide_eq_true_iff]; omega),
      if_neg (by simpa using above)]
    exact text
  · have whole := exact small
    rw [same (by omega), whole]

/-! ## Exact times -/

theorem lt_iff_toRat_lt (m : Magnitude) (k : ℕ) : m.quanta / unit < k ↔ m.toRat < k := by
  rw [← m.floor_toRat, Nat.floor_lt m.toRat_nonneg]

theorem exact_hours (above : 60 ≤ m.toRat) (below : m.toRat < 1440) :
    Span.Exact m.toRat (.hours (m.quanta / unit / 60) (m.quanta / unit % 60)) := by
  refine .hours above below ?_ ?_
  · rw [Nat.floor_div_ofNat, m.floor_toRat]
  · rw [m.floor_toRat, Nat.div_add_mod]

theorem exact_days (above : 1440 ≤ m.toRat) :
    Span.Exact m.toRat (.days (m.quanta / unit / 1440) (m.quanta / unit % 1440 / 60)) := by
  refine .days above ?_ ?_
  · rw [Nat.floor_div_ofNat, m.floor_toRat]
  · have rest : m.quanta / unit % 1440 =
        m.quanta / unit - 1440 * (m.quanta / unit / 1440) := by omega
    have left : m.toRat - 1440 * (m.quanta / unit / 1440 : ℕ) =
        m.toRat - (1440 * (m.quanta / unit / 1440) : ℕ) := by push_cast; rfl
    rw [rest, left, Nat.floor_div_ofNat, Nat.floor_sub_natCast, m.floor_toRat]

/-- What is shown of a time: below an hour the nearest tenth of a minute, and from an hour on the
exact time, as long as the minutes of the next day are exact. -/
theorem exists_span (m : Magnitude) :
    ∃ span : Span, durationChars (.finite false m) = span.chars ∧
      (m.toRat < 60 → span = .minutes (m.inPlaces 1)) ∧
      (60 ≤ m.toRat → span.Proper ∧ (m.toRat + 1440 ≤ 2 ^ 53 → span.Exact m.toRat)) := by
  have hour : m.quanta / unit < 60 ↔ m.toRat < 60 := by exact_mod_cast lt_iff_toRat_lt m 60
  have day : m.quanta / unit < 1440 ↔ m.toRat < 1440 := by exact_mod_cast lt_iff_toRat_lt m 1440
  rcases Nat.lt_or_ge (m.quanta / unit) 60 with below | above
  · exact ⟨_, durationChars_minutes below, fun _ => rfl, fun above =>
      absurd (hour.1 below) (not_lt.2 above)⟩
  rcases Nat.lt_or_ge (m.quanta / unit) 1440 with below | beyond
  · refine ⟨_, durationChars_hours above below, fun less => ?_, fun above => ⟨?_, fun _ => ?_⟩⟩
    · exact absurd (hour.2 less) (Nat.not_lt.2 above)
    · unfold Span.Proper
      omega
    · exact exact_hours above (day.1 below)
  · obtain ⟨days, text, some, same⟩ := durationChars_days beyond
    refine ⟨_, text, fun less => ?_, fun _ => ⟨?_, fun small => ?_⟩⟩
    · exact absurd (hour.2 less) (Nat.not_lt.2 above)
    · unfold Span.Proper
      omega
    · have few : m.quanta / unit + 1440 ≤ 2 ^ 53 := by
        rw [← m.floor_toRat, ← Nat.floor_add_natCast m.toRat_nonneg]
        exact Nat.floor_le_of_le (by exact_mod_cast small)
      rw [same few]
      exact exact_days (not_lt.1 fun less => absurd (day.2 less) (Nat.not_lt.2 beyond))

/-- A number that is exact with some places is shown as it is. -/
theorem inPlaces_of_toRat {places k : ℕ} (h : k = 10 ^ places * m.toRat) :
    m.inPlaces places = k := by
  have some : (unit : ℚ) ≠ 0 := Nat.cast_ne_zero.2 (Nat.ne_of_gt Magnitude.unit_pos)
  rw [Magnitude.toRat, mul_div_assoc', eq_div_iff some, mul_comm _ (m.quanta : ℚ)] at h
  have product : m.quanta * 10 ^ places = k * unit := by exact_mod_cast h.symm
  rw [Magnitude.inPlaces, product, Decimal.nearest_of_dvd (Nat.dvd_mul_left ..),
    Nat.mul_div_cancel _ Magnitude.unit_pos]

/-! ## Counts of redirects -/

/-- The minutes of few redirects are exact. -/
theorem minutesSaved_of_lt {n : UInt64} (few : 35 * n.toNat < 2 ^ 53) :
    ∃ m : Magnitude, minutesSaved n = .finite false m ∧ m.toRat = 35 * n.toNat / 2 := by
  obtain ⟨u, power, value⟩ := Magnitude.exists_unit_eq
  obtain ⟨v, rfl⟩ : ∃ v, u = v + 1 := ⟨u - 1, by omega⟩
  rw [Nat.pow_succ] at power
  have half : 2 ^ v ≤ unit := by omega
  have counted : n.toNat ≤ 2 ^ 53 := by omega
  have each : minutesPerRedirect =
      .finite false ⟨35 * 2 ^ v, Magnitude.fits_mul_pow (by decide) half⟩ := by
    refine Double.ofQuanta_of_roundQuotient false ?_
    refine Magnitude.roundQuotient_of_mul (by decide) (Magnitude.fits_mul_pow (by decide) half) ?_
    rw [power, ← Nat.mul_assoc]
  have fits := Magnitude.fits_mul_pow (Nat.le_of_lt few) half
  refine ⟨⟨35 * n.toNat * 2 ^ v, fits⟩, ?_, ?_⟩
  · rw [minutesSaved, Double.ofNat_of_le counted, each, Double.mul]
    refine Double.ofQuanta_of_roundQuotient false ?_
    refine Magnitude.roundQuotient_of_mul Magnitude.unit_pos fits ?_
    dsimp only
    ac_rfl
  · rw [Magnitude.toRat, power]
    push_cast
    field_simp

/-- The time that redirects save is shown without loss, if their minutes are exact. -/
theorem durationLabel_exact {n : UInt64} (few : 35 * n.toNat < 2 ^ 53) (s : Settings) :
    ∃ span, Span.Exact (35 * n.toNat / 2) span ∧
      (ofRedirects n s).durationLabel = String.ofList span.chars := by
  obtain ⟨m, minutes, value⟩ := minutesSaved_of_lt few
  have label : (ofRedirects n s).durationLabel =
      String.ofList (durationChars (.finite false m)) := by
    rw [← minutes]
    rfl
  rw [label, ← value]
  obtain ⟨span, text, short, long⟩ := exists_span m
  refine ⟨span, ?_, congrArg _ text⟩
  rcases lt_or_ge m.toRat 60 with below | above
  · have tenths : ((175 * n.toNat : ℕ) : ℚ) = 10 * m.toRat := by
      rw [value]
      push_cast
      ring
    rw [short below, inPlaces_of_toRat (by rw [tenths, pow_one])]
    exact .minutes below tenths
  · have small : (35 * n.toNat : ℚ) < 2 ^ 53 := by exact_mod_cast few
    exact (long above).2 (by linarith)

/-- The time of three redirects, and one that misses a whole number of days by two and a half
minutes and is nearly too large. -/
theorem durationLabel_exact_boundary :
    let most : UInt64 := 257348550134921
    35 * (3 : UInt64).toNat < 2 ^ 53 ∧ 35 * most.toNat < 2 ^ 53 ∧
      ∀ s, (ofRedirects 3 s).durationLabel = "52.5m" ∧
        (ofRedirects most s).durationLabel = "3127499741222d 23h" := by
  intro most
  have few : 35 * (3 : UInt64).toNat < 2 ^ 53 := by decide
  have many : 35 * most.toNat < 2 ^ 53 := by decide
  refine ⟨few, many, fun s => ⟨?_, ?_⟩⟩
  · obtain ⟨span, exact, label⟩ := durationLabel_exact few s
    have time : (35 * (3 : UInt64).toNat / 2 : ℚ) = 52.5 := by
      rw [show (3 : UInt64).toNat = 3 from rfl]
      norm_num
    have shown : Span.Exact 52.5 (.minutes 525) := .minutes (by norm_num) (by norm_num)
    rw [time] at exact
    rw [label, exact.unique shown]
    decide +kernel
  · obtain ⟨span, exact, label⟩ := durationLabel_exact many s
    have time : (35 * most.toNat / 2 : ℚ) = 4503599627361117.5 := by
      rw [show most.toNat = 257348550134921 from rfl]
      norm_num
    have days : ⌊(4503599627361117.5 / 1440 : ℚ)⌋₊ = 3127499741222 := by
      rw [Nat.floor_eq_iff (by norm_num)]
      norm_num
    have hours : ⌊((4503599627361117.5 - 1440 * (3127499741222 : ℕ)) / 60 : ℚ)⌋₊ = 23 := by
      rw [Nat.floor_eq_iff (by norm_num)]
      norm_num
    have shown : Span.Exact 4503599627361117.5 (.days 3127499741222 23) :=
      .days (by norm_num) days.symm hours.symm
    rw [time] at exact
    rw [label, exact.unique shown]
    decide +kernel

end Savings

end Reroute
