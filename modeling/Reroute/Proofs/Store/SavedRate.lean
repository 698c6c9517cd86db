import Reroute.Proofs.Json.Floats
import Reroute.Proofs.Rate.Cents
import Reroute.Proofs.Storage.Fit
import Reroute.Proofs.Store.Footprint

/-!
# Saved rates

A rate that was accepted is saved as a number. From a memory it is loaded as it was. From a database
it is loaded as what its text is read as, and reading a float rounds twice: below ten trillions the
first rounding is exact, so that the rate is the same, but larger rates may come back altered.

## Main results

* `Json.read?_member` — how an object with one float is read.
* `Settings.rate_read_iff` — a rate is loaded as it was exactly if it is read back from its text.
* `Rate.exact_of_ofInput` — accepted rates below ten trillions are.
* `Opened.rate_saved` — what stores load that are opened after a rate was saved.
* `Opened.exists_altered_rate` — a rate that is loaded otherwise than it was saved.
-/

namespace Reroute

namespace Json

open Number (readParts?)

/-! ## Reading a rate -/

/-- An object with one float is read if the float is, whatever number that is. -/
theorem read?_member (key : String) (m : Magnitude) :
    read? (print (.object [(key, .number (.float false m))])) =
      (Number.read? (Number.float false m).chars).map fun w => .object [(key, .number w.1)] := by
  obtain ⟨⟨c, cs, front, digit⟩, n, e, parts⟩ := Number.exists_parts m
  have text : (Number.float false m).chars = Number.floatChars m := rfl
  have number := parts [] (by simp [EndsNumeral])
  have value (fuel depth : Nat) : readValue? (fuel + 1) depth (Number.floatChars m ++ ['}']) =
      (readParts? false n e).map fun w => (.number w, ['}']) := by
    have read := parts ['}'] (by simp [EndsNumeral])
    rw [front, List.cons_append] at read ⊢
    rw [readValue?_numeral (.inr digit), read]
    cases readParts? false n e <;> rfl
  have member (fuel depth : Nat) :
      readMembers? (fuel + 2) depth (quoted key ++ ':' :: (Number.floatChars m ++ ['}'])) =
        (readParts? false n e).map fun w => ([(key, .number w)], []) := by
    rw [quoted_append, readMembers?]
    simp (disch := decide) only [skipBlank_cons, readString?_quoted, value]
    cases readParts? false n e <;>
      simp (disch := decide) [skipBlank_cons, String.ofList_toList]
  have whole (fuel depth : Nat) :
      readValue? (fuel + 3) (depth + 1)
          ('{' :: (quoted key ++ ':' :: (Number.floatChars m ++ ['}']))) =
        (readParts? false n e).map fun w => (.object [(key, .number w)], []) := by
    have opened : skipBlank (quoted key ++ ':' :: (Number.floatChars m ++ ['}'])) =
        quoted key ++ ':' :: (Number.floatChars m ++ ['}']) := by
      rw [quoted_append]
      exact skipBlank_cons (by decide) _
    rw [readValue?, skipBlank_cons (by decide)]
    simp only [opened]
    rw [quoted_append] at member ⊢
    change Option.map _ (readMembers? (fuel + 2) depth _) = _
    rw [member]
    cases readParts? false n e <;> rfl
  rw [List.append_nil] at number
  rw [text, number]
  have chars : (print (.object [(key, .number (.float false m))])).toList =
      '{' :: (quoted key ++ ':' :: (Number.floatChars m ++ ['}'])) := by
    rw [print, String.toList_ofList]
    simp [Json.chars, membersChars, text]
  obtain ⟨fuel, deep⟩ : ∃ fuel,
      2 * (print (.object [(key, .number (.float false m))])).toList.length + 2 = fuel + 3 := by
    rw [chars]
    exact ⟨2 * _ + 1, by rw [List.length_cons]; rfl⟩
  rw [read?]
  rw [deep, chars, show maxDepth = 126 + 1 from rfl, whole]
  cases readParts? false n e <;> rfl

end Json

/-! ## Rates that are read back -/

/-- What a float is read as is a float, and all of its text is read. -/
theorem Json.Number.float_of_read? {m : Magnitude} {w : Number} {rest : List Char}
    (h : read? (Number.float false m).chars = some (w, rest)) :
    rest = [] ∧ ∃ s q, w = .float s q := by
  obtain ⟨-, n, e, parts⟩ := exists_parts m
  have number := parts [] (by simp [EndsNumeral])
  rw [List.append_nil] at number
  obtain ⟨x, found, same⟩ := Option.map_eq_some_iff.1 (number.symm.trans h)
  obtain ⟨rfl, rfl⟩ := Prod.mk.inj same
  refine ⟨rfl, ?_⟩
  unfold readParts? at found
  cases hs : scale? (.ofNat n) e with
  | none => simp [hs] at found
  | some y =>
    simp only [hs, Option.bind_eq_bind, Option.bind_some, Bool.false_eq_true, if_false] at found
    cases y with
    | finite s q => exact ⟨s, q, (Option.some.inj found).symm⟩
    | _ => cases found

/-- A rate is read back from its text exactly if its number is. -/
theorem Settings.rate_read_iff {m : Magnitude} :
    (normalize ((Json.read? (encode ⟨some (.finite false m)⟩).print).getD .null)).hourlyRate =
        some (.finite false m) ↔ (Double.finite false m).Exact := by
  have stored : encode ⟨some (.finite false m)⟩ =
      .object [("hourly_rate", .number (.float false m))] := rfl
  rw [Double.exact_finite, stored, Json.read?_member]
  cases read : Json.Number.read? (Json.Number.float false m).chars with
  | none => exact iff_of_false nofun nofun
  | some found =>
    obtain ⟨w, rest⟩ := found
    obtain ⟨rfl, s, q, rfl⟩ := Json.Number.float_of_read? read
    have loaded : (normalize (.object [("hourly_rate", .number (.float s q))])).hourlyRate =
        (some (Double.finite s q)).filter fun rate => rate.isFinite && Double.zero.le rate := rfl
    simp only [Option.map_some, Option.getD_some, loaded]
    constructor
    · intro kept
      obtain ⟨same, -⟩ := Option.filter_eq_some_iff.1 kept
      obtain ⟨rfl, rfl⟩ := Double.finite.inj (Option.some.inj same)
      rfl
    · intro same
      obtain ⟨rfl, rfl⟩ := Json.Number.float.inj (Prod.mk.inj (Option.some.inj same)).1
      rw [Option.filter_some, if_pos]
      rw [Double.zero_le_finite]
      rfl

/-- Accepted rates below ten trillions are read back. -/
theorem Rate.exact_of_ofInput {raw : String} {r : Double} (h : ofInput raw = .ok (some r))
    (small : r.lt (.ofNat (10 ^ 13)) = true) : r.Exact := by
  obtain ⟨m, rfl⟩ := finite_of_ofInput h
  rw [Double.ofNat_of_le (n := 10 ^ 13) (by decide)] at small
  have below : m.quanta < 10 ^ 13 * Magnitude.unit := by
    simp only [Double.lt, Double.key?, Bool.false_eq_true, if_false, decide_eq_true_eq] at small
    exact Int.ofNat_lt.1 small
  rw [Double.exact_finite]
  by_cases zero : m.quanta = 0
  · have nothing : Json.Number.read? (Json.Number.float false .zero).chars =
        some (.float false .zero, []) := by decide +kernel
    rwa [Magnitude.eq_zero_of_quanta zero]
  · obtain ⟨n, pos, rounds⟩ := (cents_of_ofInput h).resolve_left zero
    have places := Magnitude.le_exponent_of_cents pos rounds
    have digits := Magnitude.digits_of_cents pos rounds below
    exact Json.Number.read?_float_of_few zero (by omega) digits

/-! ## Stores -/

namespace Opened

section Storage

variable {σ : Type} [Medium σ] {kept : Json → Prop}

/-- A store that was opened has the settings that are stored, whatever opening it has saved. -/
theorem settings_openOn {put : σ → Place → Json → σ} (hm : Medium.Faithful σ kept)
    (hput : Medium.Puts put) {links : Links} (sound : links.config.fault = none) (m : σ)
    (ids : Supply) :
    (openOn links m ids).store.settings =
      .normalize (readOrNull m links.config Store.settingsKey) := by
  obtain ⟨medium, -, parts⟩ := openOn_cases hput sound m ids
  have loaded : (openOn links m ids).store.settings =
      .normalize (readOrNull (openOn links m ids).medium links.config Store.settingsKey) :=
    parts .settings
  rw [loaded]
  rcases medium with same | ⟨rules, saved⟩
  · rw [same]
  · have other : (⟨links.config.area, Store.settingsKey⟩ : Place) ≠ rulesPlace links := fun e =>
      absurd (congrArg Place.key e) (by decide : Store.settingsKey ≠ Store.rulesKey)
    have read := hm.read_other (hput m (rulesPlace links) (Rule.encodeList rules)) other
    rw [saved]
    simp only [readOrNull, Link.read, sound, read]

/-- An accepted rate is saved where the links of the store lead. -/
theorem setRate_of_ofInput {put : σ → Place → Json → σ} (hput : Medium.Puts put) {o : Opened σ}
    (sound : o.store.links.config.fault = none) {raw : String} {rate : Option Double}
    (h : Rate.ofInput raw = .ok rate) :
    (o.setRate raw).1 = .ok rate ∧ (o.setRate raw).2.medium =
      put o.medium ⟨o.store.links.config.area, Store.settingsKey⟩ (Settings.encode ⟨rate⟩) := by
  have saved := persistSettings_put (o := o.withSettings ⟨rate⟩) hput sound
  have set : ({ o with store := { o.store with settings := ⟨rate⟩ } } : Opened σ) =
      o.withSettings ⟨rate⟩ := rfl
  unfold setRate
  simp only [h, set, saved]
  exact ⟨trivial, rfl⟩

end Storage

/-- An accepted rate is saved as a number. In a memory every store that is opened while the entry
stays has the same rate; in a database it has the same rate if and only if that is read back from
its text. Rates below ten trillions are. -/
theorem rate_saved {raw : String} {r : Double} (accepted : Rate.ofInput raw = .ok (some r))
    (area : Area) :
    let place : Place := ⟨area, Store.settingsKey⟩
    ∃ n : Json.Number, n.toDouble = r ∧
      (∀ o : Opened Memory, o.store.links.config = .sound area →
        let saved := o.setRate raw
        saved.1 = .ok (some r) ∧
        saved.2.medium.get place = some (.object [("hourly_rate", .number n)]) ∧
        ∀ (links : Links) (m : Memory) (ids : Supply), links.config = .sound area →
          m.get place = saved.2.medium.get place →
          (openOn links m ids).store.settings.hourlyRate = some r) ∧
      (∀ o : Opened Session, o.store.links.config = .sound area →
        let saved := o.setRate raw
        saved.1 = .ok (some r) ∧
        saved.2.medium.database.rows.get? (Database.rowOf place) =
          some (.text (Json.object [("hourly_rate", .number n)]).print) ∧
        ∀ (links : Links) (s : Session) (ids : Supply), links.config = .sound area →
          s.database.rows.get? (Database.rowOf place) =
            saved.2.medium.database.rows.get? (Database.rowOf place) →
          ((openOn links s ids).store.settings.hourlyRate = some r ↔ r.Exact)) ∧
      (r.lt (.ofNat (10 ^ 13)) = true → r.Exact) := by
  intro place
  have sound := Rate.sound_of_ofInput accepted
  have exact := Rate.exact_of_ofInput accepted
  obtain ⟨m, rfl⟩ := Rate.finite_of_ofInput accepted
  have stored : Settings.encode ⟨some (.finite false m)⟩ =
      .object [("hourly_rate", .number (.float false m))] := rfl
  refine ⟨.float false m, rfl, fun o here => ?_, fun o here => ?_, exact⟩
  · obtain ⟨answer, medium⟩ := setRate_of_ofInput Memory.puts (o := o) (by rw [here]; rfl) accepted
    have entry : (o.setRate raw).2.medium.get place =
        some (Settings.encode ⟨some (.finite false m)⟩) := by
      rw [medium, here, Memory.get_set]
      exact if_pos rfl
    refine ⟨answer, entry, fun links later ids there same => ?_⟩
    have read : readOrNull later links.config Store.settingsKey =
        Settings.encode ⟨some (.finite false m)⟩ := by
      have found :
          Medium.read later place = .ok (some (Settings.encode ⟨some (.finite false m)⟩)) :=
        congrArg Except.ok (same.trans entry)
      rw [readOrNull, there, Link.read]
      simp only [Link.sound]
      rw [found]
    rw [settings_openOn Memory.faithful Memory.puts (by rw [there]; rfl), read,
      Settings.normalize_encode sound]
  · obtain ⟨answer, medium⟩ := setRate_of_ofInput Session.puts (o := o) (by rw [here]; rfl) accepted
    have row : (o.setRate raw).2.medium.database.rows.get? (Database.rowOf place) =
        some (.text (Settings.encode ⟨some (.finite false m)⟩).print) := by
      rw [medium, here, Session.get?_set]
      exact if_pos rfl
    refine ⟨answer, row, fun links later ids there same => ?_⟩
    have read : readOrNull later links.config Store.settingsKey =
        (Json.read? (Settings.encode ⟨some (.finite false m)⟩).print).getD .null := by
      have found : Medium.read later place = later.get place := rfl
      rw [readOrNull, there, Link.read]
      simp only [Link.sound]
      rw [found, Session.get, same, row]
      dsimp only
      cases Json.read? _ <;> rfl
    rw [settings_openOn Session.faithful Session.puts (by rw [there]; rfl), read,
      Settings.rate_read_iff]

/-- A rate of twenty, saved in a new database and loaded by another connection. -/
theorem rate_saved_twenty :
    let links := Links.working true
    let s : Session := ⟨.empty, ⟨[], 0, 0, .empty⟩⟩
    let saved := (openOn links s (.from 0)).setRate "20"
    let later : Session := ⟨saved.2.medium.database, ⟨[], 0, 0, .empty⟩⟩
    Rate.ofInput "20" = .ok (some (.ofNat 20)) ∧
      (openOn links later (.from 9)).store.settings.hourlyRate = some (.ofNat 20) := by
  intro links s saved later
  have accepted : Rate.ofInput "20" = .ok (some (.ofNat 20)) := by decide +kernel
  obtain ⟨n, -, -, database, exact⟩ := rate_saved accepted .sync
  obtain ⟨-, -, reopened⟩ := database (openOn links s (.from 0)) rfl
  have kept := (reopened links later (.from 9) rfl rfl).2 (exact (by decide +kernel))
  exact ⟨accepted, kept⟩

/-- A rate of about a hundred trillions is one unit in the last place larger when it is loaded. -/
theorem exists_altered_rate :
    ∃ (o : Opened Session) (r : Double), (o.setRate "123456789012345.67").1 = .ok (some r) ∧
      (openOn o.store.links (o.setRate "123456789012345.67").2.medium o.ids).store.settings.hourlyRate
        ≠ some r := by
  refine ⟨openOn (.working true) ⟨.empty, ⟨[], 0, 0, .empty⟩⟩ (.from 0),
    .ofBits 0x42DC12218377DE6B, ?_⟩
  decide +kernel

end Opened

end Reroute
