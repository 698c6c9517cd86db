import Reroute.Metrics
import Reroute.Proofs.Double.Value

/-!
# Counts are read exactly

A count is the whole part of the number that is stored, moved to the nearest count if there is none
of this size. Whole numbers that are counts are read without rounding, in whatever form they are
stored, and every key of the counts of single rules is kept.

## Main definitions

* `Metrics.wholePart` — a number without its fraction.
* `Metrics.countOf` — the count that a stored value stands for.

## Main results

* `Metrics.toNat_coerce` — this is the count that is read.
* `Metrics.normalize_exact` — the counts of any stored value.
-/

namespace Reroute.Metrics

/-- A number without its fraction. -/
def wholePart (x : ℚ) : ℤ := if 0 ≤ x then ⌊x⌋ else ⌈x⌉

/-- The count that a stored value stands for: the whole part of a number, kept within the range of
counts; what is no number counts nothing. -/
def countOf (v : Json) : ℤ :=
  match v.number? with
  | some n => min (2 ^ 64 - 1) (max 0 (wholePart n.toRat))
  | none => 0

theorem wholePart_of_nonpos {x : ℚ} (h : x ≤ 0) : max 0 (wholePart x) = 0 := by
  refine max_eq_left ?_
  unfold wholePart
  split
  · exact Int.floor_nonpos h
  · exact Int.ceil_nonpos.2 h

theorem wholePart_quotient (a b : ℕ) : wholePart (a / b) = (a / b : ℕ) := by
  have nonneg : (0 : ℚ) ≤ a / b := by positivity
  rw [wholePart, if_pos nonneg, Rat.floor_natCast_div_natCast]
  rfl

theorem wholePart_natCast (n : ℕ) : wholePart n = n := by
  simpa using wholePart_quotient n 1

/-! ## Single counts -/

theorem toNat_coerceNumber (n : Json.Number) :
    ((coerceNumber n).toNat : ℤ) = min (2 ^ 64 - 1) (max 0 (wholePart n.toRat)) := by
  match n with
  | .natural n =>
    have small := n.toNat_lt
    simp only [coerceNumber, Json.Number.toRat, wholePart_natCast]
    omega
  | .negSucc n _ =>
    have negative : (-(n + 1) : ℚ) ≤ 0 := by linarith [n.cast_nonneg (α := ℚ)]
    rw [Json.Number.toRat, wholePart_of_nonpos negative]
    rfl
  | .float true m =>
    have negative : -m.toRat ≤ 0 := neg_nonpos.2 m.toRat_nonneg
    rw [Json.Number.toRat, if_pos rfl, wholePart_of_nonpos negative]
    rfl
  | .float false m =>
    have whole : wholePart m.toRat = (m.quanta / Magnitude.unit : ℕ) := wholePart_quotient _ _
    rw [Json.Number.toRat, if_neg Bool.false_ne_true, whole]
    simp only [coerceNumber, Double.toWord, UInt64.toNat_ofNat']
    generalize m.quanta / Magnitude.unit = q
    omega

theorem toNat_coerce (v : Json) : ((coerce v).toNat : ℤ) = countOf v := by
  cases v with
  | number n => exact toNat_coerceNumber n
  | _ => rfl

/-- A number that is a count is read as this count. -/
theorem coerce_of_toRat {n : Json.Number} {k : UInt64} (h : n.toRat = k.toNat) :
    coerce (.number n) = k := by
  have small := k.toNat_lt
  have count : ((coerce (.number n)).toNat : ℤ) = _ := toNat_coerceNumber n
  rw [h, wholePart_natCast] at count
  refine UInt64.toNat_inj.1 ?_
  omega

/-! ## All counts -/

theorem lookup_map_snd {β γ : Type} (f : β → γ) (l : List (String × β)) (key : String) :
    (l.map fun m => (m.1, f m.2)).lookup key = (l.lookup key).map f := by
  induction l with
  | nil => rfl
  | cons m l ih => grind

/-- The counts that are read of a value: the total, one count for each key under which there is a
value, and none for other keys. Numbers that are counts are read as they are. -/
theorem normalize_exact (v : Json) :
    let m := normalize v
    let counts : Json := (v.get? "per_rule").getD .null
    (m.total.toNat : ℤ) = (v.get? "total_redirects").elim 0 countOf ∧
    m.perRule.map (fun (id, n) => (id, (n.toNat : ℤ))) =
      (counts.members?.getD []).map (fun (id, v) => (id, countOf v)) ∧
    (∀ id, ((m.countFor id).toNat : ℤ) = (counts.get? id).elim 0 countOf) ∧
    (∀ (n : Json.Number) (k : UInt64), n.toRat = k.toNat →
      (v.get? "total_redirects" = some (.number n) → m.total = k) ∧
      ∀ id, counts.get? id = some (.number n) → m.countFor id = k) ∧
    (v.members? = none → m = empty) := by
  intro m counts
  have each : m.perRule = (counts.members?.getD []).map fun (id, v) => (id, coerce v) := by
    cases field : v.get? "per_rule" <;> simp [m, counts, normalize, field, Json.members?]
  have found (id : String) : m.countFor id = ((counts.get? id).map coerce).getD 0 := by
    have member : (counts.members?.getD []).lookup id = counts.get? id := by
      cases counts <;> rfl
    rw [countFor, each, lookup_map_snd, member]
  have count (o : Option Json) : (((o.map coerce).getD 0).toNat : ℤ) = o.elim 0 countOf := by
    cases o with
    | none => rfl
    | some v => exact toNat_coerce v
  refine ⟨count _, ?_, fun id => ?_, fun n k same => ⟨fun field => ?_, fun id field => ?_⟩, ?_⟩
  · rw [each, List.map_map]
    exact List.map_congr_left fun x _ => congrArg (Prod.mk x.1) (toNat_coerce x.2)
  · rw [found, count]
  · simp [m, normalize, field, coerce_of_toRat same]
  · simp [found, field, coerce_of_toRat same]
  · intro other
    cases v with
    | object members => cases other
    | _ => rfl

/-- A large count that is stored as a float, and a value that is no number. -/
theorem normalize_exact_float :
    let m : Magnitude := ⟨2 ^ 1137, by decide +kernel⟩
    let v : Json := .object [("per_rule", .object [("a", .number (.float false m)), ("b", .null)])]
    (normalize v).countFor "a" = 9223372036854775808 ∧ (normalize v).countFor "b" = 0 := by
  intro m v
  obtain ⟨-, -, count, whole, -⟩ := normalize_exact v
  have value : (Json.Number.float false m).toRat = (9223372036854775808 : UInt64).toNat := by
    have quanta : m.quanta = 9223372036854775808 * Magnitude.unit := by
      unfold Magnitude.unit
      decide +kernel
    have pos : (Magnitude.unit : ℚ) ≠ 0 := Nat.cast_ne_zero.2 (Nat.ne_of_gt Magnitude.unit_pos)
    rw [Json.Number.toRat, if_neg Bool.false_ne_true, Magnitude.toRat, quanta, Nat.cast_mul,
      mul_div_cancel_right₀ _ pos]
    rfl
  refine ⟨(whole _ _ value).2 "a" rfl, ?_⟩
  exact UInt64.toNat_inj.1 (Int.ofNat_inj.1 (count "b"))

end Reroute.Metrics
