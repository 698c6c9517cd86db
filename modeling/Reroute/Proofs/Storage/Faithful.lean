import Reroute.Proofs.Storage.Rows
import Reroute.Storage.Memory

/-!
# Storages that keep what is written

## Main definitions

* `Medium.Faithful` — no write fails, other places stay as they are, and values of some kind are
  read back.
* `Guarded` — a storage whose writes fail while there is a reason for it.

## Main results

* `Memory.faithful` — storage in memory keeps every value.
* `Session.faithful` — storage in a database keeps the values that are read back from their texts.
* `Guarded.read_of_write` — writes that succeed in a guarded storage are kept all the same.
-/

namespace Reroute

/-- A storage that never fails, keeps other places as they are, and reads a value of some kind back
once it was written. -/
structure Medium.Faithful (σ : Type) [Medium σ] (kept : Json → Prop) : Prop where
  write_ok : ∀ (m : σ) p v, ∃ m', Medium.write m p v = .ok m'
  read_written : ∀ {m m' : σ} {p v}, Medium.write m p v = .ok m' → kept v →
    Medium.read m' p = .ok (some v)
  read_other : ∀ {m m' : σ} {p q v}, Medium.write m p v = .ok m' → q ≠ p →
    Medium.read m' q = Medium.read m q

/-! ## Memory -/

theorem Memory.faithful : Medium.Faithful Memory fun _ => True where
  write_ok m p v := ⟨m.set p v, rfl⟩
  read_written := by
    rintro m _ p v ⟨⟩ -
    change Except.ok ((m.set p v).get p) = _
    rw [Memory.get_set, if_pos rfl]
  read_other := by
    rintro m _ p q v ⟨⟩ hq
    change Except.ok ((m.set p v).get q) = Except.ok (m.get q)
    rw [Memory.get_set, if_neg hq]

/-! ## Databases -/

/-- The row of a place is found after a write exactly there. -/
theorem Session.get?_set (s : Session) (p q : Place) (v : Json) :
    (s.set p v).database.rows.get? (Database.rowOf q) =
      if q = p then some (.text v.print) else s.database.rows.get? (Database.rowOf q) := by
  change Table.get? (Table.put _ _ _) _ = _
  rw [Table.get?_put]
  by_cases h : q = p
  · rw [if_pos h, if_pos (congrArg _ h)]
  · rw [if_neg h, if_neg fun e => h (Database.rowOf_injective e)]

theorem Session.faithful : Medium.Faithful Session fun v => Json.read? v.print = some v where
  write_ok s p v := ⟨s.set p v, rfl⟩
  read_written := by
    rintro s _ p v ⟨⟩ hv
    change (s.set p v).get p = _
    unfold Session.get
    rw [Session.get?_set, if_pos rfl]
    simp only [hv]
  read_other := by
    rintro s _ p q v ⟨⟩ hq
    change (s.set p v).get q = s.get q
    unfold Session.get
    rw [Session.get?_set, if_neg hq]

/-! ## Writes that fail -/

/-- A storage, and why its writes fail if they do. -/
structure Guarded (σ : Type) where
  medium : σ
  refusal : Option StorageError

namespace Guarded

variable {σ : Type} [Medium σ]

instance : Medium (Guarded σ) where
  read g p := Medium.read g.medium p
  write g p v :=
    match g.refusal with
    | none => (Medium.write g.medium p v).map fun m => { g with medium := m }
    | some e => .error e

theorem read_of_write {kept : Json → Prop} (hm : Medium.Faithful σ kept) {g g' : Guarded σ}
    {p : Place} {v : Json} (h : Medium.write g p v = .ok g') :
    (kept v → Medium.read g' p = .ok (some v)) ∧
      ∀ q, q ≠ p → Medium.read g' q = Medium.read g q := by
  obtain ⟨m, refusal⟩ := g
  cases refusal with
  | some e => cases h
  | none =>
    obtain ⟨m', written⟩ := hm.write_ok m p v
    simp only [Medium.write, written] at h
    cases h
    exact ⟨hm.read_written written, fun q => hm.read_other written⟩

end Guarded

end Reroute
