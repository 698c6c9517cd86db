import Reroute.Proofs.Double.Bounds
import Reroute.Proofs.Json.Plain
import Reroute.Proofs.Rate
import Reroute.Proofs.Rule.Stored

/-!
# Values that every storage keeps

A storage of texts keeps what a storage of values keeps, if the values are plain. Rates are taken
from stored values and saved again as floats, so they have to be plain as well.

## Main definitions

* `Double.Exact` — a double that is read back from its text.
* `Settings.Plain` — settings that can be saved as a plain value.
* `Json.Fit` — a plain value with such settings.

## Main results

* `Json.Plain.fit`, `Rule.fit_encodeList`, `Settings.Plain.fit_encode` — which values are fit.
* `Rate.plain_of_ofInput` — rates that are accepted can be saved.
-/

namespace Reroute

/-- A double that is read back from its text, if it has one. -/
def Double.Exact (x : Double) : Prop :=
  ∀ n, Json.Number.ofDouble? x = some n → Json.Number.read? n.chars = some (n, [])

theorem Double.exact_finite {negative : Bool} {m : Magnitude} :
    (finite negative m).Exact ↔ Json.Number.read? (Json.Number.float negative m).chars =
      some (.float negative m, []) := by
  simp [Exact, Json.Number.ofDouble?]

/-- A rate that can be saved: it is read back, and no negative zero. -/
def Settings.Plain (s : Settings) : Prop :=
  ∀ negative m, s.hourlyRate = some (.finite negative m) → (Json.Number.float negative m).Plain

/-- A plain value whose settings can be saved. -/
structure Json.Fit (v : Json) : Prop where
  plain : v.Plain maxDepth
  settings : (Settings.normalize v).Plain

/-! ## Saved values -/

theorem Settings.Plain.encode {s : Settings} (h : s.Plain) : s.encode.Plain Json.maxDepth := by
  have member : (encodeRate s.hourlyRate).Plain 126 := by
    unfold encodeRate
    cases hr : s.hourlyRate with
    | none => trivial
    | some rate =>
      cases rate with
      | finite negative m => exact h negative m hr
      | _ => trivial
  exact ⟨List.pairwise_singleton _ _, member, trivial⟩

theorem Settings.Plain.fit_encode {s : Settings} (h : s.Plain) : s.encode.Fit := by
  refine ⟨h.encode, fun negative m read => h negative m ?_⟩
  obtain ⟨found, -⟩ := Option.filter_eq_some_iff.1 read
  obtain ⟨n, hn, rate⟩ := Option.map_eq_some_iff.1 found
  have number : (encodeRate s.hourlyRate).number? = some n := hn
  unfold encodeRate at number
  cases hr : s.hourlyRate with
  | none => simp [hr, Json.number?] at number
  | some x =>
    cases x with
    | finite t k =>
      simp only [hr, Option.bind_some, Json.Number.ofDouble?, Json.number?] at number
      cases number
      rw [← rate]
      rfl
    | _ => simp [hr, Json.Number.ofDouble?, Json.number?] at number

theorem Rule.plainItems_encode (rs : List Rule) (depth : Nat) :
    Json.PlainItems (depth + 1) (rs.map encode) := by
  induction rs with
  | nil => trivial
  | cons r rs ih =>
    have ordered : ["enabled", "id", "source_hostname", "target_url"].Pairwise (· < ·) := by decide
    exact ⟨⟨ordered, trivial, trivial, trivial, trivial, trivial⟩, ih⟩

theorem Rule.fit_encodeList (rs : List Rule) : (encodeList rs).Fit :=
  ⟨plainItems_encode rs _, nofun⟩

/-- An accepted rate that is read back can be saved. -/
theorem Rate.plain_of_ofInput {raw : String} {rate : Option Double}
    (h : ofInput raw = .ok rate) (exact : ∀ x ∈ rate, x.Exact) : Settings.Plain ⟨rate⟩ := by
  intro negative m found
  have value : rate = some (.finite negative m) := found
  obtain ⟨c, same⟩ := finite_of_ofInput (value ▸ h)
  obtain ⟨rfl, rfl⟩ := Double.finite.inj same
  exact ⟨Double.exact_finite.1 (exact _ value), nofun⟩

/-! ## Plain values -/

theorem Json.PlainMembers.lookup {depth : Nat} {ms : List (String × Json)} {key : String} {v : Json}
    (h : PlainMembers depth ms) (found : ms.lookup key = some v) : v.Plain depth := by
  induction ms with
  | nil => cases found
  | cons m ms ih =>
    rw [List.lookup_cons] at found
    split at found
    · cases found
      exact h.1
    · exact ih h.2 found

/-- The number under a key of a plain value is plain. -/
theorem Json.Plain.number_get? {depth : Nat} {v : Json} {key : String} {n : Number}
    (h : v.Plain depth) (found : (v.get? key).bind number? = some n) : n.Plain := by
  obtain ⟨w, member, number⟩ := Option.bind_eq_some_iff.1 found
  cases v with
  | object ms =>
    cases depth with
    | zero => exact h.elim
    | succ depth =>
      have plain := PlainMembers.lookup h.2 member
      cases w with
      | number k =>
        cases number
        simpa only [Json.Plain] using plain
      | _ => cases number
  | _ => cases member

/-- A plain value is fit if the rate that it holds is read back as a float. -/
theorem Json.Plain.fit {v : Json} (h : v.Plain maxDepth)
    (exact : ∀ x ∈ (Settings.normalize v).hourlyRate, x.Exact) : v.Fit := by
  refine ⟨h, fun negative m rate => ⟨Double.exact_finite.1 (exact _ rate), fun sign => ?_⟩⟩
  subst sign
  obtain ⟨found, -⟩ := Option.filter_eq_some_iff.1 rate
  obtain ⟨n, number, size⟩ := Option.map_eq_some_iff.1 found
  cases n with
  | natural n =>
    obtain ⟨sign, -⟩ := Double.of_ofNat_eq_finite size
    cases sign
  | negSucc n small =>
    cases hn : Double.ofNat (n + 1) with
    | finite s k =>
      rw [Number.toDouble, hn] at size
      obtain ⟨-, rfl⟩ := Double.finite.inj size
      exact (Double.of_ofNat_eq_finite hn).2 (by omega)
    | nan =>
      rw [Number.toDouble, hn] at size
      cases size
    | infinite s =>
      rw [Number.toDouble, hn] at size
      cases size
  | float s k =>
    obtain ⟨rfl, rfl⟩ := Double.finite.inj size
    exact (h.number_get? number).2 rfl

end Reroute
