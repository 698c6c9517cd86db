import Reroute.Proofs.Savings
import Reroute.Proofs.Savings.Duration

/-!
# The unit fits the figure

Amounts and times change to a larger unit from a certain figure on. An amount is compared after it
is rounded to cents, so that the unit is the one that fits the figure which is shown, although the
comparison and the text round on their own. A time is compared before it is rounded: for the last
three seconds of an hour it is shown as sixty minutes.

## Main results

* `Savings.compact_iff` — when an amount is shown in thousands.
* `Savings.unit_fits` — the units of all times and amounts.
-/

namespace Reroute

open Magnitude (unit)

/-! ## Computed comparisons -/

namespace Double

/-- A whole number of cents makes up a thousand dollars exactly if it is large enough. -/
theorem le_thousand_iff (n : Nat) :
    le 1000 ((ofQuanta false (n * unit) 1).div 100) = true ↔ 100000 ≤ n := by
  have thousand {m : Magnitude} :
      le 1000 ((finite false m).div 100) = true ↔ 1000 * 100 * unit ≤ m.quanta :=
    ofNat_le_div_iff (by decide) (by decide) (by decide)
  rcases Nat.lt_or_ge n 100000 with less | many
  · have fits : Magnitude.Fits (n * unit) := Magnitude.fits_mul_unit (by omega)
    have cents : ofQuanta false (n * unit) 1 = .finite false ⟨n * unit, fits⟩ :=
      ofQuanta_one false ⟨_, fits⟩
    rw [cents, thousand]
    exact Nat.mul_le_mul_right_iff Magnitude.unit_pos
  · refine iff_of_true ?_ many
    rcases ofQuanta_cases false (n * unit) 1 with ⟨m, finite, quanta⟩ | ⟨infinite, -⟩
    · rw [finite, thousand, quanta]
      refine Magnitude.le_roundQuotient
        (m := ⟨1000 * 100 * unit, Magnitude.fits_mul_unit (by decide)⟩) Nat.one_pos ?_
      rw [Nat.mul_one]
      exact Nat.mul_le_mul_right unit many
    · rw [infinite]
      exact ofNat_le_infinite_div (k := 1000) (d := 100) (by decide) (by decide)

end Double

/-! ## The comparison of amounts -/

namespace Magnitude

/-- Around a thousand dollars amounts are `2 ^ -43` apart. -/
theorem exists_step : ∃ g : Nat, unit = 2 ^ 43 * g ∧ 0 < g ∧
    (∀ m : Magnitude, 512 * unit ≤ m.quanta → g ∣ m.quanta) ∧
    ∃ c : Magnitude, 2 * c.quanta = 199999 * unit ∧ c.gap = 2 ^ 7 * g := by
  obtain ⟨u, power, value⟩ := exists_unit_eq
  obtain ⟨z, rfl⟩ : ∃ z, u = 43 + z := ⟨u - 43, by omega⟩
  rw [Nat.pow_add] at power
  have small : 2 ^ (z + 42) ≤ unit := by
    rw [power, ← Nat.pow_add]
    exact Nat.pow_le_pow_right (by decide) (by omega)
  let c : Magnitude := ⟨199999 * 2 ^ (z + 42), fits_mul_pow (by decide) small⟩
  have quanta : c.quanta = 199999 * 2 ^ (z + 42) := rfl
  refine ⟨2 ^ z, power, Nat.two_pow_pos z, fun m large => ?_, c, ?_, ?_⟩
  · refine m.dvd_of_binade_le (Nat.le_trans (Nat.le_of_eq ?_) large)
    rw [power]
    omega
  · rw [quanta, power, Nat.pow_add]
    omega
  · have exponent : spare c.quanta = z + 7 := by
      rw [quanta, Nat.pow_add]
      refine spare_eq ?_ (.inr ?_) <;> rw [Nat.pow_add] <;> have := Nat.two_pow_pos z <;> omega
    rw [gap, exponent, Nat.pow_add, Nat.mul_comm]

/-- A hundred times an amount comes to half a cent below a thousand dollars exactly if it is rounded
so: no amount is so near below that the product is rounded up. -/
theorem hundredfold_iff (m : Magnitude) :
    199999 * unit ≤ 2 * roundQuotient (m.quanta * (100 * unit)) unit ↔
      199999 * unit ≤ 200 * m.quanta := by
  obtain ⟨g, step, pos, multiple, c, middle, gap⟩ := exists_step
  have scaled :
      roundQuotient (m.quanta * (100 * unit)) unit = roundQuotient (m.quanta * 100) 1 := by
    have := roundQuotient_mul_right (m.quanta * 100) 1 unit_pos
    rwa [Nat.one_mul, Nat.mul_assoc] at this
  rw [scaled, ← middle]
  constructor
  · intro rounded
    refine Nat.le_of_not_lt fun less => ?_
    have far : roundQuotient (m.quanta * 100) 1 < c.quanta := by
      refine roundQuotient_lt_of_far Nat.one_pos ?_
      have reach := c.reachDown_le
      rw [gap] at reach
      rcases Nat.lt_or_ge m.quanta (512 * unit) with small | large
      · omega
      · obtain ⟨k, hk⟩ := multiple m large
        have steps : 200 * k < 199999 * 2 ^ 43 := by
          refine Nat.lt_of_mul_lt_mul_left (a := g) ?_
          have product : g * (200 * k) = 200 * m.quanta := by rw [hk, Nat.mul_left_comm]
          rw [product]
          omega
        -- The hundredfold of the last amount is 96 hundredths of its step below the middle.
        have apart : 200 * k + 192 ≤ 199999 * 2 ^ 43 := by omega
        have below := Nat.mul_le_mul_left g apart
        rw [Nat.mul_add, Nat.mul_left_comm, ← hk] at below
        omega
    omega
  · intro le
    have := le_roundQuotient (m := c) (a := m.quanta * 100) Nat.one_pos (by omega)
    omega

end Magnitude

namespace Savings

variable {m : Magnitude}

theorem thousand_iff : 100000 ≤ m.inPlaces 2 ↔ 199999 * unit ≤ 200 * m.quanta := by
  rw [Magnitude.inPlaces, Decimal.le_nearest_iff_of_even Magnitude.unit_pos (by decide)]
  omega

/-- From a thousand dollars on, as they are written, the comparison finds an amount large enough. -/
theorem compact_iff (m : Magnitude) :
    Double.le 1000 ((((Double.finite false m).mul 100).round).div 100) = true ↔
      100000 ≤ m.inPlaces 2 := by
  have hundred : (100 : Double) = .finite false ⟨100 * unit, Magnitude.fits_mul_unit (by decide)⟩ :=
    Double.ofNat_of_le (by decide)
  have product : (Double.finite false m).mul 100 =
      .ofQuanta false (m.quanta * (100 * unit)) unit := by rw [hundred]; rfl
  rw [thousand_iff, ← Magnitude.hundredfold_iff, product]
  rcases Double.ofQuanta_cases false (m.quanta * (100 * unit)) unit with
    ⟨c, finite, quanta⟩ | ⟨infinite, large⟩
  · have rounded : (Double.finite false c).round =
        .ofQuanta false ((2 * c.quanta + unit) / (2 * unit) * unit) 1 := rfl
    have pos := Magnitude.unit_pos
    rw [finite, rounded, Double.le_thousand_iff, Nat.le_div_iff_mul_le (by omega), quanta]
    omega
  · refine iff_of_true ?_ ?_
    · rw [infinite]
      exact Double.ofNat_le_infinite_div (k := 1000) (d := 100) (by decide) (by decide)
    · have := Double.bound_gt
      omega

/-- An amount is shown in thousands if its cents make up a thousand dollars, and then it is at least
one thousand as it is written. -/
theorem moneyChars_of_le (above : 100000 ≤ m.inPlaces 2) :
    ∃ tenths, 10 ≤ tenths ∧
      moneyChars (.finite false m) = '$' :: (Double.placesText 1 tenths ++ ['k']) := by
  obtain ⟨c, thousands, quanta⟩ :=
    Double.exists_div_ofNat false m (d := 1000) (by decide) (by decide)
  have quotient : (Double.finite false m).div 1000 = .finite false c := thousands
  refine ⟨c.inPlaces 1, ?_, ?_⟩
  · obtain ⟨n, near⟩ : ∃ n : Magnitude, 32 * n.quanta = 31 * unit := by
      obtain ⟨u, power, value⟩ := Magnitude.exists_unit_eq
      obtain ⟨v, rfl⟩ : ∃ v, u = v + 5 := ⟨u - 5, by omega⟩
      rw [Nat.pow_add] at power
      refine ⟨⟨31 * 2 ^ v, Magnitude.fits_mul_pow (by decide) (by omega)⟩, ?_⟩
      dsimp only
      omega
    have large := thousand_iff.1 above
    have least : n.quanta ≤ c.quanta := by
      rw [quanta]
      exact Magnitude.le_roundQuotient (by decide) (by omega)
    rw [Magnitude.inPlaces, Decimal.le_nearest_iff_of_even Magnitude.unit_pos (by decide)]
    omega
  · rw [moneyChars, if_pos ((compact_iff m).2 above), quotient]
    rfl

theorem moneyChars_of_lt (below : m.inPlaces 2 < 100000) :
    moneyChars (.finite false m) = '$' :: (Double.finite false m).fixed 2 := by
  rw [moneyChars, if_neg]
  rw [compact_iff]
  exact Nat.not_le.2 below

theorem notMem_fixed (m : Magnitude) : 'k' ∉ (Double.finite false m).fixed 2 := by
  obtain ⟨whole, fraction, text, -, -, digits⟩ := fixed_finite 2 (by decide) m
  rw [text]
  intro letter
  rcases List.mem_append.1 letter with before | after
  · exact absurd (digits 'k' (List.mem_append_left _ before)) (by decide)
  · rcases List.mem_cons.1 after with point | after
    · cases point
    · exact absurd (digits 'k' (List.mem_append_right _ after)) (by decide)

/-- An amount is shown in dollars exactly if its cents do not make up a thousand of them. -/
theorem moneyChars_plain_iff :
    moneyChars (.finite false m) = '$' :: (Double.finite false m).fixed 2 ↔
      m.inPlaces 2 < 100000 := by
  refine ⟨fun plain => Nat.lt_of_not_le fun large => notMem_fixed m ?_, moneyChars_of_lt⟩
  obtain ⟨tenths, -, compact⟩ := moneyChars_of_le large
  rw [(List.cons.inj (plain.symm.trans compact)).2]
  simp

/-! ## The comparison of times -/

theorem sixty_iff : 600 ≤ m.inPlaces 1 ↔ 59.95 ≤ m.toRat := by
  have pos : (0 : ℚ) < unit := Nat.cast_pos.2 Magnitude.unit_pos
  have scaled :
      2 * (600 * unit) ≤ 2 * (m.quanta * 10 ^ 1) + unit ↔ 1199 * unit ≤ 20 * m.quanta := by
    omega
  rw [Magnitude.inPlaces, Decimal.le_nearest_iff_of_even Magnitude.unit_pos (by decide), scaled,
    Magnitude.toRat, le_div_iff₀ pos, ← Nat.cast_le (α := ℚ)]
  push_cast
  constructor <;> intro le <;> linarith

/-- Less than an hour is shown as at most sixty minutes. -/
theorem inPlaces_le_sixty (below : m.toRat < 60) : m.inPlaces 1 ≤ 600 := by
  have whole : m.quanta / unit < 60 := (lt_iff_toRat_lt m 60).2 (by exact_mod_cast below)
  rw [Nat.div_lt_iff_lt_mul Magnitude.unit_pos] at whole
  have tenths : m.quanta * 10 ^ 1 / unit < 600 := by
    rw [Nat.div_lt_iff_lt_mul Magnitude.unit_pos]
    omega
  exact Nat.le_trans (Decimal.nearest_le ..) tenths

/-- Times change to the next unit in time, but for the last three seconds of the first hour. -/
theorem durationChars_proper (m : Magnitude) :
    ∃ span : Span, durationChars (.finite false m) = span.chars ∧
      (m.toRat < 60 → span = .minutes (m.inPlaces 1)) ∧
      (60 ≤ m.toRat → m.toRat + 1440 ≤ 2 ^ 53 → span.Exact m.toRat) ∧
      (¬span.Proper ↔ 59.95 ≤ m.toRat ∧ m.toRat < 60) ∧ (¬span.Proper → span = .minutes 600) := by
  obtain ⟨span, text, short, long⟩ := exists_span m
  refine ⟨span, text, short, fun above => (long above).2, ?_⟩
  rcases lt_or_ge m.toRat 60 with below | above
  · obtain rfl := short below
    rw [Span.Proper, Nat.not_lt]
    refine ⟨sixty_iff.trans (and_iff_left below).symm, fun least => ?_⟩
    rw [Nat.le_antisymm (inPlaces_le_sixty below) least]
  · have proper := (long above).1
    exact ⟨iff_of_false (not_not.2 proper) fun wrong => not_lt.2 above wrong.2,
      fun wrong => absurd proper wrong⟩

/-- The unit fits the figure that is shown, for all times and amounts that are not negative, but for
times of at least 59.95 and less than 60 minutes: these are shown as 60.0 minutes. Amounts are shown
in dollars exactly if they are less than a thousand dollars as they are written, and else as at
least one thousand. -/
theorem unit_fits {negative : Bool} (sound : Double.zero.le (.finite negative m) = true) :
    let x := Double.finite negative m
    let sign := Double.signText negative
    (∃ span : Span, durationChars x = sign ++ span.chars ∧
      (m.toRat < 60 → span = .minutes (m.inPlaces 1)) ∧
      (60 ≤ m.toRat → m.toRat + 1440 ≤ 2 ^ 53 → span.Exact m.toRat) ∧
      (¬span.Proper ↔ 59.95 ≤ m.toRat ∧ m.toRat < 60) ∧ (¬span.Proper → span = .minutes 600)) ∧
    (moneyChars x = '$' :: x.fixed 2 ↔ m.inPlaces 2 < 100000) ∧
    (100000 ≤ m.inPlaces 2 → ∃ tenths, 10 ≤ tenths ∧
      moneyChars x = '$' :: (sign ++ (Double.placesText 1 tenths ++ ['k']))) := by
  intro x sign
  cases negative with
  | true =>
    obtain rfl := Double.eq_zero_of_zero_le sound
    -- A minus sign stands before the texts of zero.
    have minutes :
        durationChars (.finite true .zero) = '-' :: durationChars (.finite false .zero) := by
      decide +kernel
    have plain : moneyChars (.finite true .zero) = '$' :: (Double.finite true .zero).fixed 2 := by
      decide +kernel
    have cents : Magnitude.zero.inPlaces 2 < 100000 := by decide +kernel
    obtain ⟨span, text, unit⟩ := durationChars_proper .zero
    refine ⟨⟨span, ?_, unit⟩, iff_of_true plain cents, fun large => ?_⟩
    · rw [minutes, text]
      rfl
    · exact absurd large (Nat.not_le.2 cents)
  | false => exact ⟨durationChars_proper m, moneyChars_plain_iff, moneyChars_of_le⟩

/-- Just below half a cent less than a thousand dollars. -/
theorem unit_fits_below_thousand :
    let m : Magnitude := ⟨8796049041742888 * 2 ^ 1031, by decide +kernel⟩
    Double.zero.le (.finite false m) = true ∧ moneyText (.finite false m) = "$999.99" := by
  intro m
  have sound : Double.zero.le (.finite false m) = true := by decide +kernel
  obtain ⟨-, plain, -⟩ := unit_fits sound
  have text := plain.2 (by decide +kernel)
  refine ⟨sound, ?_⟩
  rw [moneyText, text]
  decide +kernel

/-- A time that is less than an hour is shown as sixty minutes. -/
theorem exists_sixty_minutes :
    ∃ x : Double, x.isFinite = true ∧ Double.zero.le x = true ∧ x.lt 60 = true ∧
      durationText x = "60.0m" ∧ durationChars x = (Span.minutes 600).chars := by
  refine ⟨.ofRatio 5996 100, ?_⟩
  decide +kernel

end Savings

end Reroute
