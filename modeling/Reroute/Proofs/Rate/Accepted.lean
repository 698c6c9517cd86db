import Reroute.Proofs.Double.Nearest
import Reroute.Proofs.Double.Reading
import Reroute.Proofs.Hostname
import Reroute.Proofs.Rate.Cents

/-!
# Accepted rates are rounded half up

An accepted rate is the double nearest to the cents that the shortest spelling of the input is
rounded to, a half going up. What is computed before the last step is exact, and the rate is
accepted again, unchanged, however it is spelled.

## Main definitions

* `Double.HasValue` — a double is exactly a number.
* `Magnitude.Closest` — no double is nearer to a number.

## Main results

* `Rate.ofInput_of_spelledBy` — spellings of a rate with at most two places are accepted as the
  rate.
* `Rate.ofInput_halfUp` — what an accepted rate is, and that it is accepted again.
-/

namespace Reroute

/-- A number that is finite, not negative, and exactly a given one. -/
def Double.HasValue (x : Double) (q : ℚ) : Prop := ∃ m, x = .finite false m ∧ m.toRat = q

/-- No finite double is nearer to a number. -/
def Magnitude.Closest (m : Magnitude) (q : ℚ) : Prop :=
  ∀ s other, |m.toRat - q| ≤ |(Json.Number.float s other).toRat - q|

theorem Double.hasValue_ofNat {n : Nat} (h : n ≤ 2 ^ 53) : (ofNat n).HasValue n := by
  refine ⟨_, ofNat_of_le h, ?_⟩
  have some : (Magnitude.unit : ℚ) ≠ 0 := Nat.cast_ne_zero.2 (Nat.ne_of_gt Magnitude.unit_pos)
  rw [Magnitude.toRat, Nat.cast_mul, mul_div_cancel_right₀ _ some]

theorem Magnitude.closest_of_ofRatio {a b : Nat} (hb : 0 < b) {s : Bool} {m : Magnitude}
    (h : Double.ofRatio a b = .finite s m) : m.Closest (a / b) := by
  intro t other
  have near := Double.ofRatio_le_distance hb h other
  cases t with
  | false => exact near
  | true =>
    -- The negative ones are on the other side of zero.
    have least : (0 : ℚ) ≤ a / b := by positivity
    have size := other.toRat_nonneg
    refine near.trans ?_
    rw [Json.Number.toRat, if_pos rfl, abs_le, le_abs, neg_le, le_abs]
    constructor <;> right <;> linarith

namespace Text

theorem isBlank_of_isDigit {c : Char} (h : c.isDigit = true) : isBlank c = false := by
  simp only [Char.isDigit, Bool.and_eq_true, decide_eq_true_eq] at h
  have low : 48 ≤ c.toNat := h.1
  have high : c.toNat ≤ 57 := h.2
  simp [isBlank]
  omega

end Text

namespace Rate

variable {raw : String} {r : Double} {m : Magnitude}

/-- Spellings of a rate with at most two places are accepted as this rate. -/
theorem ofInput_of_spelledBy {cs : List Char} (h : m.SpelledBy cs)
    (short : -2 ≤ m.shortest.exponent) :
    ofInput (String.ofList cs) = .ok (some (.finite false m)) := by
  have solid : Text.trim cs = cs := Text.trim_eq_self fun c hc => by
    rcases h.point_or_isDigit c hc with rfl | digit
    · rfl
    · exact Text.isBlank_of_isDigit digit
  have read : Double.read? cs = some (.finite false m) := h.read? false
  have kept : toCents m = .finite false m := by
    have places := m.length_places
    have few : m.shortest.split.2.length ≤ 2 := by omega
    exact if_pos few
  unfold ofInput
  rw [String.toList_ofList, solid]
  split
  · cases read
  · rw [read]
    dsimp only
    split
    · rename_i zero
      rw [Magnitude.eq_zero_of_quanta zero]
      rfl
    · rw [if_neg (by decide), kept]

/-- If the rate is rounded, its cents are exact before the division by a hundred. -/
theorem exact_cutCents (long : 2 < m.shortest.split.2.length) :
    let cut := Decimal.Scaled.toDouble false ⟨cutCents m, 0⟩
    cutCents m + 1 ≤ 2 ^ 53 ∧ cut.HasValue (cutCents m) ∧ (cut.add 1).HasValue (cutCents m + 1) := by
  have places := m.length_places
  have few : cutCents m + 1 < 2 ^ 53 := cutCents_lt (by omega)
  dsimp only
  rw [Double.toDouble_eq_ofNat (by omega), Double.add_one (by omega)]
  refine ⟨Nat.le_of_lt few, Double.hasValue_ofNat (by omega), ?_⟩
  have next := Double.hasValue_ofNat (Nat.le_of_lt few)
  rwa [Nat.cast_add, Nat.cast_one] at next

/-- An accepted rate is the double nearest to the cents to which the shortest spelling of the number
that is read is rounded half up. The cents are exact until they are divided, and both spellings of
the rate are accepted as the rate. -/
theorem ofInput_halfUp (accepted : ofInput raw = .ok (some r)) :
    ∃ (negative : Bool) (m q : Magnitude),
      Double.read? (Text.trim raw.toList) = some (.finite negative m) ∧
      (negative = true → m.quanta = 0) ∧
      r = .finite false q ∧
      r = .ofRatio m.shortest.cents 100 ∧ q.Closest (m.shortest.cents / 100) ∧
      (2 < m.shortest.split.2.length →
        let cut := Decimal.Scaled.toDouble false ⟨cutCents m, 0⟩
        cutCents m + 1 ≤ 2 ^ 53 ∧ cut.HasValue (cutCents m) ∧
          (cut.add 1).HasValue (cutCents m + 1)) ∧
      ofInput (String.ofList r.positional) = .ok (some r) ∧
      ofInput (String.ofList (r.fixed 2)) = .ok (some r) := by
  obtain ⟨negative, m, read, sign, rounded⟩ := exists_of_ofInput accepted
  obtain ⟨q, rfl⟩ := finite_of_ofInput accepted
  rw [toCents_eq] at rounded
  have cents : q.RoundedFrom (q.inPlaces 2) (-2) ∧ -2 ≤ q.shortest.exponent := by
    rcases cents_of_ofRatio rounded.symm with zero | ⟨pos, whole⟩
    · rw [Magnitude.eq_zero_of_quanta zero]
      decide +kernel
    · exact ⟨Magnitude.roundedFrom_inPlaces whole, Magnitude.le_exponent_of_cents pos whole⟩
  exact ⟨negative, m, q, read, sign, rfl, rounded,
    Magnitude.closest_of_ofRatio (by decide) rounded.symm, exact_cutCents,
    ofInput_of_spelledBy q.spelledBy_positional cents.2,
    ofInput_of_spelledBy (Magnitude.spelledBy_placesText (by decide) cents.1) cents.2⟩

/-- The double that is read from `1.005` lies below this decimal, and yet the rate is `1.01`. -/
theorem ofInput_halfUp_below_middle :
    let r := Double.ofRatio 101 100
    ofInput "1.005" = .ok (some r) ∧
    ∃ (negative : Bool) (m q : Magnitude),
      Double.read? (Text.trim "1.005".toList) = some (.finite negative m) ∧
      r = .finite false q ∧ q.Closest (m.shortest.cents / 100) ∧
      ofInput (String.ofList r.positional) = .ok (some r) ∧
      ofInput (String.ofList (r.fixed 2)) = .ok (some r) := by
  intro r
  have accepted : ofInput "1.005" = .ok (some r) := by decide +kernel
  obtain ⟨negative, m, q, read, -, finite, -, closest, -, again⟩ := ofInput_halfUp accepted
  exact ⟨accepted, negative, m, q, read, finite, closest, again⟩

end Rate

end Reroute
