import Reroute.Proofs.Decoding
import Reroute.Proofs.Rule.Stored

/-!
# What is stored is in normal form

What the lenient readers make of any value is stored in a form that they take as it is. So reading,
storing and reading again changes nothing, and rules get no other ids. The strict readers accept
this form too, and read the same.

## Main definitions

* `Rule.decodeList?` — the rules of a well-formed array.

## Main results

* `Metrics.decode?_encode`, `Settings.decode?_encode`, `Rule.decodeList?_encodeList` — what is
  stored is well-formed.
* `Json.normalize_encode_normalize` — it is read as what was stored, in both ways.
-/

namespace Reroute

namespace Metrics

/-- The counts of stored counts are written as such. -/
theorem decode?_encode (m : Metrics) : decode? m.encode = some m :=
  decode?_object_iff.2 ⟨rfl, rfl⟩

theorem normalize_encode (m : Metrics) : normalize m.encode = m :=
  normalize_of_decode? (decode?_encode m)

end Metrics

namespace Settings

/-- A stored rate is written as a number if it is finite. -/
theorem decode?_encode {s : Settings} (finite : ∀ rate ∈ s.hourlyRate, rate.isFinite = true) :
    decode? s.encode = some s := by
  refine decode?_object_iff.2 ?_
  obtain ⟨rate⟩ := s
  cases rate with
  | none => exact .inr rfl
  | some rate =>
    cases rate with
    | finite negative m => exact ⟨.float negative m, rfl, rfl⟩
    | nan => cases finite .nan rfl
    | infinite negative => cases finite (.infinite negative) rfl

theorem Sound.isFinite {s : Settings} (h : s.Sound) :
    ∀ rate ∈ s.hourlyRate, rate.isFinite = true := fun rate own =>
  (Bool.and_eq_true_iff.1 (h rate own)).1

end Settings

namespace Rule

/-- The rules of a well-formed array. -/
def decodeList? (v : Json) : Option (List Rule) := v.items?.bind (·.mapM decode?)

theorem decode?_encode (r : Rule) : decode? r.encode = some r :=
  decode?_object_iff.2 ⟨rfl, rfl, rfl, rfl⟩

/-- Stored rules are well-formed, whatever their ids are. -/
theorem decodeList?_encodeList (rs : List Rule) : decodeList? (encodeList rs) = some rs := by
  have items : decodeList? (encodeList rs) = (rs.map encode).mapM decode? := rfl
  have each : decode? ∘ encode = fun r => pure r := funext decode?_encode
  rw [items, List.mapM_map, each, List.mapM_pure, List.map_id']
  rfl

end Rule

/-! ## Normal forms -/

/-- What is read of any value stays the same when it is stored and read again, and the strict
readers read the same. Rules that are read again take no ids from the supply. -/
theorem Json.normalize_encode_normalize (v : Json) (ids : Supply) (named : ∀ n, ids.id n ≠ "") :
    let m := Metrics.normalize v
    let s := Settings.normalize v
    let rs := (Rule.listOfStored v ids).1
    (Metrics.normalize m.encode = m ∧ Metrics.decode? m.encode = some m) ∧
      (Settings.normalize s.encode = s ∧ Settings.decode? s.encode = some s) ∧
      (∀ later, Rule.listOfStored (Rule.encodeList rs) later = (rs, later)) ∧
      Rule.decodeList? (Rule.encodeList rs) = some rs := by
  intro m s rs
  have sound : s.Sound := Settings.normalize_sound v
  have kept : ∀ r ∈ rs, r.id ≠ "" := fun r => Rule.ne_empty_of_mem_listOfStored named
  exact ⟨⟨m.normalize_encode, m.decode?_encode⟩,
    ⟨Settings.normalize_encode sound, Settings.decode?_encode sound.isFinite⟩,
    Rule.listOfStored_encodeList kept, Rule.decodeList?_encodeList rs⟩

/-- A rule with a number as its id, one with an empty id, and an item that is no object. -/
theorem Json.normalize_encode_normalize_minted :
    let v : Json := .array [.object [("enabled", .string "yes"), ("id", .number (.natural 7))],
      .object [("id", .string ""), ("source_hostname", .string "a.b")], .null]
    let rs := (Rule.listOfStored v (.from 0)).1
    rs.map Rule.id = ["7", (Supply.from 0).id 0, (Supply.from 0).id 1] ∧
      Rule.listOfStored (Rule.encodeList rs) (.from 5) = (rs, .from 5) ∧
      Rule.decodeList? (Rule.encodeList rs) = some rs := by
  intro v rs
  obtain ⟨-, -, again, strict⟩ := Json.normalize_encode_normalize v (.from 0)
    (Supply.from_ne_empty 0)
  exact ⟨by decide +kernel, again (.from 5), strict⟩

end Reroute
