import Reroute.Settings

/-!
# Stored settings are read back

## Main definitions

* `Settings.Sound` — the rate is unset, or finite and not below zero.

## Main results

* `Settings.normalize_sound` — settings that are loaded are sound.
* `Settings.normalize_encode` — sound settings are read back from what is stored of them.
-/

namespace Reroute

theorem Double.zero_le_finite (m : Magnitude) : Double.zero.le (.finite false m) = true := by
  simp [le, zero, key?, Magnitude.zero]

namespace Settings

/-- The rate is unset, or finite and not below zero. -/
def Sound (s : Settings) : Prop :=
  ∀ rate ∈ s.hourlyRate, (rate.isFinite && Double.zero.le rate) = true

theorem normalize_sound (v : Json) : (normalize v).Sound := by
  intro rate h
  obtain ⟨-, sound⟩ := Option.filter_eq_some_iff.1 h
  exact sound

theorem normalize_encode {s : Settings} (h : s.Sound) : normalize s.encode = s := by
  obtain ⟨rate⟩ := s
  cases rate with
  | none => rfl
  | some rate =>
    have sound := h rate rfl
    cases rate with
    | nan => cases sound
    | infinite negative => cases sound
    | finite negative m =>
      simp only [normalize, encode, encodeRate, Option.bind_some, Json.Number.ofDouble?, Json.get?,
        List.lookup_cons, beq_self_eq_true, Json.number?, Option.map_some, Json.Number.toDouble]
      rw [Option.filter_some, if_pos sound]

end Settings

end Reroute
