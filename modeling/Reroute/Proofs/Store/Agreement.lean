import Reroute.Proofs.Json.Same
import Reroute.Proofs.Settings
import Reroute.Proofs.Store.Operations

/-!
# Copies that agree

A write of a value that is the same as the stored one is not announced, so copies may differ in the
sign of a zero from what is stored. Counts do not show it, and rates are compared as numbers.

## Main definitions

* `Settings.Eqv` — equal rates, or none on both sides.
* `Topic.Agree` — copies of a topic agree.

## Main results

* `Topic.agree_normalize` — values that are the same give copies that agree.
-/

namespace Reroute

namespace Metrics

theorem coerceNumber_canonical (n : Json.Number) : coerceNumber n.canonical = coerceNumber n := by
  cases n with
  | float s m =>
    cases s with
    | false => rfl
    | true =>
      by_cases zero : m.quanta = 0 <;>
        simp [Json.Number.canonical, coerceNumber, Double.toWord, zero]
  | _ => rfl

theorem coerce_canonical (v : Json) : coerce v.canonical = coerce v := by
  cases v <;> simp [Json.canonical, coerce, coerceNumber_canonical]

/-- Counts do not depend on the signs of zeros. -/
theorem normalize_canonical (v : Json) : normalize v.canonical = normalize v := by
  simp only [normalize, Json.get?_canonical, mk.injEq]
  refine ⟨?_, ?_⟩
  · simp [Function.comp_def, coerce_canonical]
  · cases v.get? "per_rule" with
    | none => rfl
    | some ms =>
      simp only [Option.map_some, Option.bind_some, Json.members?_canonical]
      cases ms.members? <;> simp [Function.comp_def, coerce_canonical]

end Metrics

namespace Settings

/-- The rates are equal as numbers, or both are unset. -/
def Eqv (s t : Settings) : Prop := Option.Rel (fun x y => x.eqv y = true) s.hourlyRate t.hourlyRate

theorem Sound.eqv_refl {s : Settings} (h : s.Sound) : s.Eqv s := by
  obtain ⟨rate⟩ := s
  cases rate with
  | none => exact .none
  | some rate =>
    have sound := h rate rfl
    exact .some (Double.eqv_refl_of_isFinite (by grind))

theorem Eqv.symm {s t : Settings} (h : s.Eqv t) : t.Eqv s := by
  obtain ⟨x⟩ := s
  obtain ⟨y⟩ := t
  cases h with
  | none => exact .none
  | some h => exact .some (Double.eqv_symm h)

theorem Eqv.trans {s t u : Settings} (h : s.Eqv t) (h' : t.Eqv u) : s.Eqv u := by
  obtain ⟨x⟩ := s
  obtain ⟨y⟩ := t
  obtain ⟨z⟩ := u
  cases h with
  | none => exact h'
  | some h =>
    cases h' with
    | some h' => exact .some (Double.eqv_trans h h')

/-- A rate is loaded with its number, whatever the signs of zeros. -/
theorem eqv_normalize_canonical (v : Json) : (normalize v.canonical).Eqv (normalize v) := by
  have number : (v.canonical.get? "hourly_rate").bind Json.number? =
      ((v.get? "hourly_rate").bind Json.number?).map Json.Number.canonical := by
    rw [Json.get?_canonical]
    cases v.get? "hourly_rate" with
    | none => rfl
    | some rate => exact rate.number?_canonical
  have sound := normalize_sound v
  obtain ⟨n, hn⟩ : ∃ n, (v.get? "hourly_rate").bind Json.number? = n := ⟨_, rfl⟩
  unfold normalize at sound ⊢
  rw [number]
  rw [hn] at sound ⊢
  rcases n with _ | ⟨n | ⟨n, small⟩ | ⟨s, m⟩⟩
  · exact sound.eqv_refl
  · exact sound.eqv_refl
  · exact sound.eqv_refl
  · by_cases zero : m.quanta = 0
    · have passes (t : Bool) :
          ((Double.finite t m).isFinite && Double.zero.le (.finite t m)) = true := by
        cases t <;>
          simp [Double.isFinite, Double.le, Double.key?, Double.zero, Magnitude.zero, zero]
      simp only [Option.map_some, Json.Number.canonical, Json.Number.toDouble, Option.filter_some,
        passes, if_true]
      exact .some (Double.eqv_finite_iff.2 ⟨rfl, .inl zero⟩)
    · have same : (Json.Number.float s m).canonical = .float s m := by
        simp [Json.Number.canonical, zero]
      rw [Option.map_some, same]
      exact sound.eqv_refl

end Settings

namespace Topic

/-- Copies of a topic agree: counts are equal, and rates are equal as numbers. -/
def Agree : (τ : Topic) → τ.Value → τ.Value → Prop
  | .metrics => Eq
  | .settings => Settings.Eqv

theorem Agree.symm {τ : Topic} {x y : τ.Value} (h : τ.Agree x y) : τ.Agree y x := by
  cases τ with
  | metrics => exact Eq.symm h
  | settings => exact Settings.Eqv.symm h

theorem Agree.trans {τ : Topic} {x y z : τ.Value} (h : τ.Agree x y) (h' : τ.Agree y z) :
    τ.Agree x z := by
  cases τ with
  | metrics => exact Eq.trans h h'
  | settings => exact Settings.Eqv.trans h h'

/-- What is loaded agrees if the stored values are the same. -/
theorem agree_normalize (τ : Topic) {v w : Json} (h : v.same w = true) :
    τ.Agree (τ.normalize v) (τ.normalize w) := by
  have canonical := Json.same_iff.1 h
  cases τ with
  | metrics =>
    have equal := Metrics.normalize_canonical w
    rw [← canonical, Metrics.normalize_canonical] at equal
    exact equal
  | settings =>
    have left := (Settings.eqv_normalize_canonical v).symm
    rw [canonical] at left
    exact left.trans (Settings.eqv_normalize_canonical w)

end Topic

end Reroute
