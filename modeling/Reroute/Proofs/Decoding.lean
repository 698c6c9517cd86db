import Mathlib.Tactic.MkIffOfInductiveProp
import Reroute.Metrics
import Reroute.Proofs.Double.Bounds
import Reroute.Proofs.Settings
import Reroute.Rule.Stored

/-!
# Lenient and strict readers

Rules, counts and settings are read in two ways. The strict readers take objects with all fields, in
the form in which they are written, whatever other members there are. The lenient ones make the best
of any value. Where both can read an object, they read the same, unless the strict reader finds what
is never kept: a rule without an id, or a rate below zero.

## Main definitions

* `Rule.WrittenIn`, `Metrics.WrittenIn`, `Settings.WrittenIn` — the form in which they are written.

## Main results

* `Rule.decode?_object_iff`, `Metrics.decode?_object_iff`, `Settings.decode?_object_iff` — what is
  read strictly.
* `Json.readers_agree` — the lenient readers agree with the strict ones.
-/

namespace Reroute

/-- If every result tells its item, a list is gone through with some results exactly if it has the
items that they tell. -/
theorem mapM_eq_some_iff_eq_map {α β : Type} {f : α → Option β} {g : β → α}
    (h : ∀ x y, f x = some y ↔ x = g y) {xs : List α} {ys : List β} :
    xs.mapM f = some ys ↔ xs = ys.map g := by
  induction xs generalizing ys with
  | nil => cases ys <;> simp
  | cons x xs ih => cases ys <;> simp [List.mapM_cons, Option.bind_eq_some_iff, h, ih]

variable {members : List (String × Json)}

/-! ## Rules -/

namespace Rule

/-- A value has all fields of a rule. -/
@[mk_iff]
structure WrittenIn (v : Json) (r : Rule) : Prop where
  id : v.get? "id" = some (.string r.id)
  enabled : v.get? "enabled" = some (.bool r.enabled)
  source : v.get? "source_hostname" = some (.string r.source)
  target : v.get? "target_url" = some (.string r.target)

/-- A rule is decoded from an object that has all its fields. -/
theorem decode?_object_iff {r : Rule} :
    decode? (.object members) = some r ↔ WrittenIn (.object members) r := by
  have text {v : Json} {s : String} : v.string? = some s ↔ v = .string s := by
    cases v <;> simp [Json.string?]
  have flag {v : Json} {b : Bool} : v.bool? = some b ↔ v = .bool b := by
    cases v <;> simp [Json.bool?]
  obtain ⟨id, enabled, source, target⟩ := r
  simp only [writtenIn_iff, decode?, bind, pure, Option.bind_eq_some_iff, text, flag, Json.get?]
  grind

/-- A decoded rule has a usable id unless this is empty, and then it is loaded as it is. -/
theorem ofStored_of_decode? {r : Rule} (h : decode? (.object members) = some r) :
    ((storedId? (.object members)).isSome ↔ r.id ≠ "") ∧
      (r.id ≠ "" → ∀ ids, ofStored (.object members) ids = (r, ids)) := by
  have fields := decode?_object_iff.1 h
  have own : storedId? (.object members) = if r.id = "" then none else some r.id := by
    simp [storedId?, fields.id]
  refine ⟨by rw [own]; split <;> simp_all, fun named ids => ?_⟩
  rw [ofStored, own, if_neg named]
  simp [withId, textField, fields.enabled, fields.source, fields.target, Json.bool?, Json.string?]

end Rule

/-! ## Counts -/

namespace Metrics

/-- A value has a total and an object of counts. -/
@[mk_iff]
structure WrittenIn (v : Json) (m : Metrics) : Prop where
  total : v.get? "total_redirects" = some (.number (.natural m.total))
  perRule : v.get? "per_rule" =
    some (.object (m.perRule.map fun (id, n) => (id, .number (.natural n))))

theorem count?_eq_some_iff {v : Json} {n : UInt64} :
    count? v = some n ↔ v = .number (.natural n) := by
  unfold count?
  split <;> simp_all

/-- The counts of single rules are decoded from an object that has nothing else. -/
theorem counts?_eq_some_iff {v : Json} {cs : List (String × UInt64)} : counts? v = some cs ↔
    v = .object (cs.map fun (id, n) => (id, .number (.natural n))) := by
  have member (x : String × Json) (c : String × UInt64) :
      ((count? x.2).bind fun n => some (x.1, n)) = some c ↔
        x = (c.1, .number (.natural c.2)) := by
    obtain ⟨id, v⟩ := x
    obtain ⟨id', n⟩ := c
    simp only [Option.bind_eq_some_iff, count?_eq_some_iff, Option.some.injEq, Prod.mk.injEq]
    grind
  cases v with
  | object ms =>
    refine (mapM_eq_some_iff_eq_map member).trans ?_
    simp
  | _ => simp [counts?, Json.members?]

/-- Counts are decoded from an object that has both fields. -/
theorem decode?_object_iff {m : Metrics} :
    decode? (.object members) = some m ↔ WrittenIn (.object members) m := by
  obtain ⟨total, perRule⟩ := m
  simp only [writtenIn_iff, decode?, bind, pure, Option.bind_eq_some_iff, count?_eq_some_iff,
    counts?_eq_some_iff, Json.get?]
  grind

/-- Decoded counts are loaded as they are. -/
theorem normalize_of_decode? {m : Metrics} (h : decode? (.object members) = some m) :
    normalize (.object members) = m := by
  have fields := decode?_object_iff.1 h
  obtain ⟨n, counts⟩ := m
  simp [normalize, fields.total, fields.perRule, Json.members?, coerce, coerceNumber,
    Function.comp_def]

end Metrics

/-! ## Settings -/

/-- A whole number of 64 bits is a finite double. -/
theorem Double.isFinite_ofNat {n : Nat} (h : n ≤ 2 ^ 64) : (ofNat n).isFinite = true := by
  have pos := Magnitude.unit_pos
  have below := Magnitude.pow_mul_unit_lt (show 66 ≤ 1000 by decide)
  have half : n * Magnitude.unit ≤ 2 ^ 64 * Magnitude.unit * 1 := by
    rw [Nat.mul_one]
    exact Nat.mul_le_mul_right _ h
  obtain ⟨m, finite, -⟩ := atMost_ofQuanta half (by omega)
  rw [ofNat, ofRatio, finite]
  rfl

/-- Every number is a finite double. -/
theorem Json.Number.isFinite_toDouble (n : Json.Number) : n.toDouble.isFinite = true := by
  cases n with
  | natural n => exact Double.isFinite_ofNat (Nat.le_of_lt n.toNat_lt)
  | negSucc n small =>
    have finite : (Double.ofNat (n + 1)).isFinite = true := Double.isFinite_ofNat (by omega)
    rw [toDouble]
    generalize Double.ofNat (n + 1) = x at finite
    cases x <;> first | rfl | cases finite
  | float s m => rfl

namespace Settings

/-- A value has a number as its rate, or none if the rate is unset. -/
def WrittenIn (v : Json) (s : Settings) : Prop :=
  match s.hourlyRate with
  | none => v.get? "hourly_rate" = none ∨ v.get? "hourly_rate" = some .null
  | some rate => ∃ n : Json.Number, v.get? "hourly_rate" = some (.number n) ∧ n.toDouble = rate

/-- Settings are decoded from an object where the rate is a number, or missing. -/
theorem decode?_object_iff {s : Settings} :
    decode? (.object members) = some s ↔ WrittenIn (.object members) s := by
  obtain ⟨rate⟩ := s
  unfold WrittenIn
  cases field : members.lookup "hourly_rate" with
  | none => cases rate <;> simp [decode?, field, empty, Json.get?]
  | some v => cases v <;> cases rate <;> simp [decode?, field, rate?, Json.get?]

/-- Decoded settings are loaded as they are if and only if the rate is not below zero. -/
theorem normalize_of_decode? {s : Settings} (h : decode? (.object members) = some s) :
    normalize (.object members) = s ↔ ∀ rate ∈ s.hourlyRate, Double.zero.le rate = true := by
  have fields := decode?_object_iff.1 h
  obtain ⟨rate⟩ := s
  cases rate with
  | none =>
    rcases fields with missing | null
    · simp [normalize, missing]
    · simp [normalize, null, Json.number?]
  | some rate =>
    obtain ⟨n, number, rfl⟩ := fields
    simp [normalize, number, Json.number?, Json.Number.isFinite_toDouble]

end Settings

/-! ## Agreement -/

/-- What is decoded of an object is what is written in it. This is loaded as it is, but for a rule
with an empty id, which gets another one, and for a rate below zero, which is not loaded. -/
theorem Json.readers_agree (members : List (String × Json)) :
    let v := Json.object members
    ((∀ r, Rule.decode? v = some r ↔ Rule.WrittenIn v r) ∧
      (∀ m, Metrics.decode? v = some m ↔ Metrics.WrittenIn v m) ∧
      ∀ s, Settings.decode? v = some s ↔ Settings.WrittenIn v s) ∧
    (∀ r, Rule.decode? v = some r → ((Rule.storedId? v).isSome ↔ r.id ≠ "") ∧
      (r.id ≠ "" → ∀ ids, Rule.ofStored v ids = (r, ids))) ∧
    (∀ m, Metrics.decode? v = some m → Metrics.normalize v = m) ∧
    ∀ s, Settings.decode? v = some s →
      (Settings.normalize v = s ↔ ∀ rate ∈ s.hourlyRate, Double.zero.le rate = true) :=
  ⟨⟨fun _ => Rule.decode?_object_iff, fun _ => Metrics.decode?_object_iff,
      fun _ => Settings.decode?_object_iff⟩,
    fun _ => Rule.ofStored_of_decode?, fun _ => Metrics.normalize_of_decode?,
    fun _ => Settings.normalize_of_decode?⟩

/-- An object from which a rule, counts and settings can be decoded, and which has another member.
One of the counts is no double. -/
theorem Json.readers_agree_all :
    let members : List (String × Json) := [("enabled", .bool true), ("extra", .null),
      ("hourly_rate", .number (.natural 20)), ("id", .string "a"),
      ("per_rule", .object [("a", .number (.natural 9007199254740993))]),
      ("source_hostname", .string "a.b"), ("target_url", .string ""),
      ("total_redirects", .number (.natural 18446744073709551615))]
    let v := Json.object members
    Rule.ofStored v (.from 0) = (⟨"a", true, "a.b", ""⟩, .from 0) ∧
      Metrics.normalize v = ⟨18446744073709551615, [("a", 9007199254740993)]⟩ ∧
      Settings.normalize v = ⟨some (Double.ofNat 20)⟩ := by
  intro members v
  obtain ⟨-, rule, metrics, settings⟩ := Json.readers_agree members
  refine ⟨(rule _ rfl).2 (by decide) _, metrics _ rfl, (settings ⟨some (Double.ofNat 20)⟩ rfl).2 ?_⟩
  intro rate own
  obtain rfl : Double.ofNat 20 = rate := Option.some.inj own
  decide +kernel

end Reroute
