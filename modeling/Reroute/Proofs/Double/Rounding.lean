import Reroute.Proofs.Double.Bounds

/-!
# What rounds to a magnitude

Rounding depends on the value of a quotient alone, and the decimals that the search for the shortest
one takes for those that round to a magnitude are exactly those that do.

## Main results

* `Decimal.nearest_eq_iff` — the quotients that have a given nearest natural.
* `Magnitude.roundQuotient_congr` — equal quotients are rounded alike.
* `Double.finite_div_ofNat` — a quotient by a whole number.
* `Magnitude.roundedFrom_iff` — the decimals that round to a magnitude.
-/

namespace Reroute

namespace Decimal

/-- The quotients with the nearest natural `n` reach half a unit to both sides, and their ends
belong to them when `n` is even. -/
theorem nearest_eq_iff {a b n : Nat} (hb : 0 < b) :
    nearest a b = n ↔
      if n % 2 = 0 then 2 * (n * b) ≤ 2 * a + b ∧ 2 * a ≤ 2 * (n * b) + b
      else 2 * (n * b) < 2 * a + b ∧ 2 * a < 2 * (n * b) + b := by
  have parts : a / b * b + a % b = a := Nat.div_add_mod' a b
  have small := Nat.mod_lt a hb
  unfold nearest
  generalize a / b = f at *
  generalize a % b = r at *
  rcases Nat.lt_or_ge n f with below | above
  · have apart : (n + 1) * b ≤ f * b := Nat.mul_le_mul_right b below
    have next : (n + 1) * b = n * b + b := Nat.succ_mul n b
    rw [next] at apart
    generalize f * b = x at *
    generalize n * b = y at *
    grind
  rcases Nat.lt_or_ge n (f + 2) with near | far
  · have either : n = f ∨ n = f + 1 := by omega
    rcases either with rfl | rfl
    · generalize n * b = y at *
      grind
    · have next : (f + 1) * b = f * b + b := Nat.succ_mul f b
      rw [next]
      generalize f * b = y at *
      grind
  · have apart : (f + 2) * b ≤ n * b := Nat.mul_le_mul_right b far
    rw [Nat.add_mul] at apart
    generalize f * b = x at *
    generalize n * b = y at *
    grind

/-- An even natural is not above the nearest one from half a unit below on. -/
theorem le_nearest_iff_of_even {a b n : Nat} (hb : 0 < b) (even : n % 2 = 0) :
    n ≤ nearest a b ↔ 2 * (n * b) ≤ 2 * a + b := by
  have half := nearest_within_half (a := a) hb
  have middle := (nearest_eq_iff (a := a) hb).1 rfl
  generalize nearest a b = k at *
  constructor
  · intro le
    have := Nat.mul_le_mul_right b le
    omega
  · intro le
    refine Nat.le_of_not_lt fun less => ?_
    rcases Nat.lt_or_ge (k + 1) n with apart | next
    · have := Nat.mul_le_mul_right b apart
      rw [Nat.succ_mul, Nat.succ_mul] at this
      omega
    · obtain rfl : n = k + 1 := by omega
      rw [if_neg (by omega)] at middle
      rw [Nat.succ_mul k b] at le
      omega

theorem nearest_mul_right (a b : Nat) {c : Nat} (hc : 0 < c) :
    nearest (a * c) (b * c) = nearest a b := by
  have scaled (x y : Nat) : 2 * (x * c) < y * c ↔ 2 * x < y := by
    rw [← Nat.mul_assoc, Nat.mul_lt_mul_right hc]
  have scaled' (x y : Nat) : y * c < 2 * (x * c) ↔ y < 2 * x := by
    rw [← Nat.mul_assoc, Nat.mul_lt_mul_right hc]
  simp only [nearest, Nat.mul_div_mul_right _ _ hc, Nat.mul_mod_mul_right, scaled, scaled']

end Decimal

namespace Magnitude

open Decimal

theorem roundQuotient_mul_right (a b : Nat) {c : Nat} (hc : 0 < c) :
    roundQuotient (a * c) (b * c) = roundQuotient a b := by
  unfold roundQuotient
  rw [Nat.mul_div_mul_right _ _ hc, Nat.mul_right_comm, nearest_mul_right _ _ hc]

/-- A quotient that is a magnitude is not changed by rounding. -/
theorem roundQuotient_of_mul {a b n : Nat} (hb : 0 < b) (fits : Fits n) (h : a = n * b) :
    roundQuotient a b = n := by
  have scaled := roundQuotient_mul_right n 1 hb
  rwa [Nat.one_mul, roundQuotient_one fits, ← h] at scaled

/-- Equal quotients are rounded alike. -/
theorem roundQuotient_congr {a b a' b' : Nat} (hb : 0 < b) (hb' : 0 < b') (h : a * b' = a' * b) :
    roundQuotient a b = roundQuotient a' b' := by
  rw [← roundQuotient_mul_right a b hb', ← roundQuotient_mul_right a' b' hb, h, Nat.mul_comm b b']

end Magnitude

namespace Double

open Magnitude (unit bound)

theorem ofQuanta_of_roundQuotient (s : Bool) {a b : Nat} {m : Magnitude}
    (h : Magnitude.roundQuotient a b = m.quanta) : ofQuanta s a b = .finite s m := by
  obtain ⟨quanta, fits⟩ := m
  change Magnitude.roundQuotient a b = quanta at h
  subst h
  rw [ofQuanta, Magnitude.ofQuotient?, dif_pos fits.2]

theorem ofQuanta_mul_right (s : Bool) (a b : Nat) {c : Nat} (hc : 0 < c) :
    ofQuanta s (a * c) (b * c) = ofQuanta s a b := by
  have same := Magnitude.roundQuotient_mul_right a b hc
  by_cases fits : Magnitude.roundQuotient a b < Magnitude.bound
  · obtain ⟨m, hm⟩ : ∃ m : Magnitude, Magnitude.roundQuotient a b = m.quanta :=
      ⟨⟨_, Magnitude.dvd_roundQuotient a b, fits⟩, rfl⟩
    rw [ofQuanta_of_roundQuotient s hm, ofQuanta_of_roundQuotient s (same.trans hm)]
  · rw [ofQuanta, ofQuanta, Magnitude.ofQuotient?, Magnitude.ofQuotient?, dif_neg fits,
      dif_neg (by rwa [same])]

/-- The quotient by a whole number that is exact is rounded once. -/
theorem finite_div_ofNat (s : Bool) (m : Magnitude) {d : Nat} (pos : 0 < d) (hd : d ≤ 2 ^ 53) :
    (finite s m).div (ofNat d) = ofQuanta s m.quanta d := by
  have some : d * unit ≠ 0 := Nat.ne_of_gt (Nat.mul_pos pos Magnitude.unit_pos)
  rw [ofNat_of_le hd, div, if_neg some, Bool.xor_false]
  exact ofQuanta_mul_right s m.quanta d Magnitude.unit_pos

/-- A quotient by a number from three on is finite, since rounding at most doubles it. -/
theorem exists_div_ofNat (s : Bool) (m : Magnitude) {d : Nat} (hd : 3 ≤ d) (hd' : d ≤ 2 ^ 53) :
    ∃ c : Magnitude, (Double.finite s m).div (ofNat d) = .finite s c ∧
      c.quanta = Magnitude.roundQuotient m.quanta d := by
  have below : Magnitude.roundQuotient m.quanta d < bound := by
    have rounded := Magnitude.roundQuotient_le m.quanta d
    have third : m.quanta / d ≤ m.quanta / 3 := Nat.div_le_div_left hd (by decide)
    have := m.fits.2
    have := bound_gt
    have := Magnitude.unit_pos
    omega
  rw [finite_div_ofNat s m (by omega) hd', ofQuanta, Magnitude.ofQuotient?, dif_pos below]
  exact ⟨_, rfl, rfl⟩

end Double

namespace Magnitude

open Decimal

/-! ## Binades -/

theorem spare_spec (n : Nat) :
    n < 2 ^ 53 * 2 ^ spare n ∧ (spare n = 0 ∨ 2 ^ 52 * 2 ^ spare n ≤ n) := by
  constructor
  · have := div_pow_spare_lt n
    rwa [Nat.div_lt_iff_lt_mul (Nat.two_pow_pos _)] at this
  · rcases Nat.eq_zero_or_pos (spare n) with none | some
    · exact .inl none
    · refine .inr ?_
      unfold spare at some ⊢
      rw [← Nat.pow_add, show 52 + (n.log2 - 52) = n.log2 by omega]
      refine Nat.log2_self_le ?_
      rintro rfl
      simp at some

theorem spare_eq {n s : Nat} (lt : n < 2 ^ 53 * 2 ^ s) (le : s = 0 ∨ 2 ^ 52 * 2 ^ s ≤ n) :
    spare n = s := by
  rw [← Nat.pow_add] at lt le
  unfold spare
  rcases Nat.eq_zero_or_pos n with rfl | pos
  · have := Nat.two_pow_pos (52 + s)
    simp
    omega
  · have upper := (Nat.log2_lt (Nat.ne_of_gt pos)).2 lt
    rcases le with rfl | le
    · omega
    · have lower := (Nat.le_log2 (Nat.ne_of_gt pos)).2 le
      omega

section Interval

variable {m : Magnitude} {a b : Nat}

/-- The quotient is of the binade of a magnitude, or of the one below its least. -/
def Near (m : Magnitude) (a b : Nat) : Prop :=
  spare (a / b) = spare m.quanta ∨
    spare (a / b) + 1 = spare m.quanta ∧ m.quanta = 2 ^ 52 * m.gap

/-- A quotient lies among the reals that round to a magnitude. -/
def Reaches (m : Magnitude) (a b : Nat) : Prop :=
  if m.quanta / m.gap % 2 = 0 then
    (4 * m.quanta - m.reachDown) * b ≤ 4 * a ∧ 4 * a ≤ (4 * m.quanta + m.reachUp) * b
  else (4 * m.quanta - m.reachDown) * b < 4 * a ∧ 4 * a < (4 * m.quanta + m.reachUp) * b

theorem near_of_roundQuotient (h : roundQuotient a b = m.quanta) : m.Near a b := by
  obtain ⟨lt, le⟩ := spare_spec (a / b)
  have low := le_nearest a (b * 2 ^ spare (a / b))
  have high := nearest_le a (b * 2 ^ spare (a / b))
  rw [← Nat.div_div_eq_div_mul] at low high
  unfold roundQuotient at h
  unfold Near gap
  generalize spare (a / b) = s at *
  generalize nearest a (b * 2 ^ s) = n at *
  have pos := Nat.two_pow_pos s
  have below : a / b / 2 ^ s < 2 ^ 53 := (Nat.div_lt_iff_lt_mul pos).2 lt
  have above : s = 0 ∨ 2 ^ 52 ≤ n := le.imp_right fun le =>
    Nat.le_trans ((Nat.le_div_iff_mul_le pos).2 le) low
  rw [← h]
  rcases Nat.lt_or_ge n (2 ^ 53) with small | large
  · refine .inl (spare_eq (Nat.mul_lt_mul_of_pos_right small pos) ?_).symm
    exact above.imp_right (Nat.mul_le_mul_right _)
  · obtain rfl : n = 2 ^ 53 := by omega
    have double : 2 ^ 53 * 2 ^ s = 2 ^ 52 * 2 ^ (s + 1) := by
      rw [← Nat.pow_add, ← Nat.pow_add, show 53 + s = 52 + (s + 1) by omega]
    have next : spare (2 ^ 53 * 2 ^ s) = s + 1 := by
      rw [double]
      exact spare_eq (Nat.mul_lt_mul_of_pos_right (by decide) (Nat.two_pow_pos _))
        (.inr (Nat.le_refl _))
    rw [next]
    exact .inr ⟨rfl, double⟩

/-- The binade of a quotient that reaches a magnitude, from the two ends of what reaches it. -/
theorem near_of_reaches (hb : 0 < b) (h : m.Reaches a b) : m.Near a b := by
  have ends : (4 * m.quanta - m.reachDown) * b ≤ 4 * a ∧
      4 * a ≤ (4 * m.quanta + m.reachUp) * b := by
    unfold Reaches at h
    split at h <;> omega
  have high : 4 * (a / b) ≤ 4 * m.quanta + m.reachUp := by
    refine Nat.le_of_mul_le_mul_right (Nat.le_trans ?_ ends.2) hb
    rw [Nat.mul_assoc]
    exact Nat.mul_le_mul_left 4 (Nat.div_mul_le_self a b)
  have low : 4 * m.quanta - m.reachDown < 4 * (a / b + 1) := by
    refine Nat.lt_of_mul_lt_mul_right (a := b) (Nat.lt_of_le_of_lt ends.1 ?_)
    rw [Nat.mul_assoc]
    exact Nat.mul_lt_mul_of_pos_left (Nat.lt_mul_of_div_lt (Nat.lt_succ_self _) hb) (by decide)
  obtain ⟨lt, le⟩ := spare_spec m.quanta
  have pos := m.gap_pos
  have steps : m.quanta / m.gap * m.gap = m.quanta := Nat.div_mul_cancel m.fits.1
  have few := div_pow_spare_lt m.quanta
  change m.quanta / m.gap < 2 ^ 53 at few
  have last : (m.quanta / m.gap + 1) * m.gap ≤ 2 ^ 53 * m.gap := Nat.mul_le_mul_right _ few
  rw [Nat.succ_mul, steps] at last
  unfold reachUp at high
  unfold reachDown at low
  have below : a / b < 2 ^ 53 * m.gap := by omega
  by_cases same : spare m.quanta = 0 ∨ 2 ^ 52 * m.gap ≤ a / b
  · exact .inl (spare_eq below same)
  · -- The quotient is below the binade, so the magnitude is the least of it.
    obtain ⟨some, less⟩ := not_or.1 same
    obtain ⟨s, hs⟩ : ∃ s, spare m.quanta = s + 1 := ⟨spare m.quanta - 1, by omega⟩
    have double : m.gap = 2 * 2 ^ s := by rw [gap, hs, Nat.pow_succ, Nat.mul_comm]
    have half := Nat.two_pow_pos s
    have normal : 2 ^ 52 * m.gap ≤ m.quanta := le.resolve_left some
    have least : m.quanta = 2 ^ 52 * m.gap := by
      refine Decidable.byContradiction fun other => ?_
      rw [if_neg fun e => other e.2] at low
      have next : (2 ^ 52 + 1) * m.gap ≤ m.quanta := by
        rw [← steps] at normal other ⊢
        refine Nat.mul_le_mul_right _ (Nat.lt_of_le_of_ne ?_ fun e => other (by rw [← e]))
        exact Nat.le_of_mul_le_mul_right normal pos
      omega
    rw [if_pos ⟨by omega, least⟩] at low
    refine .inr ⟨?_, least⟩
    rw [hs]
    refine congrArg (· + 1) (spare_eq ?_ (.inr ?_)) <;> omega

/-- Exactly the quotients that reach a magnitude are rounded to it. -/
theorem roundQuotient_eq_iff (hb : 0 < b) : roundQuotient a b = m.quanta ↔ m.Reaches a b := by
  by_cases far : ¬m.Near a b
  · exact iff_of_false (fun h => far (near_of_roundQuotient h)) fun h =>
      far (near_of_reaches hb h)
  have pos := m.gap_pos
  have wide : 0 < m.gap * b := Nat.mul_pos pos hb
  have ends : (4 * m.quanta - m.reachDown) * b = 4 * (m.quanta * b) - m.reachDown * b ∧
      (4 * m.quanta + m.reachUp) * b = 4 * (m.quanta * b) + 2 * (m.gap * b) := by
    rw [Nat.sub_mul, Nat.add_mul, Nat.mul_assoc, reachUp, Nat.mul_assoc]
    exact ⟨rfl, rfl⟩
  unfold Reaches
  rw [ends.1, ends.2]
  obtain ⟨lt, le⟩ := spare_spec (a / b)
  rcases Classical.not_not.1 far with same | ⟨lower, least⟩
  · -- In the binade of the magnitude both ask for the same nearest number of gaps.
    have steps : m.quanta / m.gap * m.gap = m.quanta := Nat.div_mul_cancel m.fits.1
    have rounded : roundQuotient a b = m.quanta ↔
        nearest a (m.gap * b) = m.quanta / m.gap := by
      unfold roundQuotient
      rw [same, Nat.mul_comm b]
      change nearest a (m.gap * b) * m.gap = _ ↔ _
      constructor
      · intro h
        rw [← h, Nat.mul_div_cancel _ pos]
      · intro h
        rw [h, steps]
    have down : m.reachDown * b = 2 * (m.gap * b) ∨
        m.reachDown * b = m.gap * b ∧ m.quanta * b ≤ a := by
      unfold reachDown
      split
      · rename_i least
        rw [same] at le
        have some : spare m.quanta ≠ 0 := fun none => by simp [gap, none] at least
        refine .inr ⟨rfl, Nat.le_trans (Nat.mul_le_mul_right b ?_) (Nat.div_mul_le_self a b)⟩
        rw [least.2]
        exact le.resolve_left some
      · exact .inl (Nat.mul_assoc ..)
    have product : m.quanta / m.gap * (m.gap * b) = m.quanta * b := by rw [← Nat.mul_assoc, steps]
    have odd : m.quanta / m.gap % 2 ≠ 0 → m.gap * b ≤ m.quanta * b := by
      intro odd
      rw [← product]
      exact Nat.le_mul_of_pos_left _ (Nat.pos_of_ne_zero fun none => odd (by rw [none]))
    rw [rounded, nearest_eq_iff wide, product]
    clear product lt le
    generalize m.quanta * b = x at *
    generalize m.gap * b = y at *
    split
    · omega
    · have := odd ‹_›
      omega
  · -- Below the least magnitude of a binade the gaps are half as wide.
    have double : m.gap = 2 * 2 ^ spare (a / b) := by
      rw [gap, ← lower, Nat.pow_succ, Nat.mul_comm]
    have half := Nat.two_pow_pos (spare (a / b))
    have whole : 2 ^ 53 * 2 ^ spare (a / b) = m.quanta := by omega
    have rounded : roundQuotient a b = m.quanta ↔
        nearest a (2 ^ spare (a / b) * b) = 2 ^ 53 := by
      unfold roundQuotient
      rw [Nat.mul_comm b, ← whole]
      exact ⟨Nat.eq_of_mul_eq_mul_right half, fun h => by rw [h]⟩
    have even : m.quanta / m.gap % 2 = 0 := by rw [least, Nat.mul_div_cancel _ pos]
    have down : m.reachDown = m.gap := if_pos ⟨by omega, least⟩
    have above : a < m.quanta * b := by
      rw [whole] at lt
      exact (Nat.div_lt_iff_lt_mul hb).1 lt
    have product : 2 ^ 53 * (2 ^ spare (a / b) * b) = m.quanta * b := by rw [← Nat.mul_assoc, whole]
    have doubled : m.gap * b = 2 * (2 ^ spare (a / b) * b) := by rw [double, Nat.mul_assoc]
    rw [rounded, nearest_eq_iff (Nat.mul_pos half hb), product, if_pos (by decide), if_pos even,
      down, doubled]
    generalize m.quanta * b = x at *
    generalize 2 ^ spare (a / b) * b = y at *
    omega

/-- The decimals that the search takes for those that round to a magnitude do. -/
theorem roundedFrom_iff {d : Nat} {k : Int} :
    m.RoundedFrom d k ↔ roundQuotient (d * tenNum k * unit) (tenDen k) = m.quanta := by
  rw [roundQuotient_eq_iff (tenDen_pos k)]
  unfold RoundedFrom Reaches
  rw [Nat.mul_left_comm]

end Interval

end Magnitude

end Reroute
