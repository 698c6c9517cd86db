import Reroute.Storage.Database

/-!
# The rows of a database as entries

## Main definitions

* `Database.AllText` — no row stops the reading.

## Main results

* `Database.entries?_isOk` — the rows can be read exactly if all of them hold texts.
* `Database.get?_entries` — what is read of a place is what its row holds.
-/

namespace Reroute.Database

/-- Every row holds a text. -/
def AllText (d : Database) : Prop := ∀ r ∈ d.rows, ∃ t, r.2 = .text t

theorem texts?_eq_ok {rows : Table (String × String) Cell}
    {ts : Table (String × String) String} (h : texts? rows = .ok ts) :
    rows = ts.map fun r => (r.1, .text r.2) := by
  induction rows generalizing ts with
  | nil =>
    cases h
    rfl
  | cons r rows ih =>
    obtain ⟨row, c⟩ := r
    cases c with
    | blob bytes => cases h
    | text s =>
      unfold texts? at h
      split at h
      · rename_i rest hrest
        cases h
        rw [List.map_cons, ← ih hrest]
      · cases h

theorem exists_texts? {rows : Table (String × String) Cell}
    (h : ∀ r ∈ rows, ∃ t, r.2 = .text t) : ∃ ts, texts? rows = .ok ts := by
  induction rows with
  | nil => exact ⟨[], rfl⟩
  | cons r rows ih =>
    obtain ⟨t, ht⟩ := h r List.mem_cons_self
    obtain ⟨ts, hts⟩ := ih fun q hq => h q (List.mem_cons_of_mem r hq)
    obtain ⟨row, c⟩ := r
    cases ht
    exact ⟨(row, t) :: ts, by simp [texts?, hts]⟩

/-! ## Rows and places -/

theorem rowOf_injective {p q : Place} (h : rowOf p = rowOf q) : p = q := by
  obtain ⟨pa, pk⟩ := p
  obtain ⟨qa, qk⟩ := q
  obtain ⟨ha, rfl⟩ := Prod.mk.inj h
  have ha := congrArg Area.ofName? ha
  simp only [Area.ofName?_name, Option.some.injEq] at ha
  rw [ha]

/-- The entry of a row, if its area is known. -/
def place? (r : (String × String) × String) : Option (Place × String) :=
  (Area.ofName? r.1.1).map fun area => (⟨area, r.1.2⟩, r.2)

theorem entries?_eq_ok {d : Database} {es : Table Place String} (h : d.entries? = .ok es) :
    ∃ ts : Table (String × String) String,
      d.rows = (ts.map fun r => (r.1, .text r.2)) ∧ es = ts.filterMap place? := by
  unfold entries? at h
  split at h
  · rename_i ts hts
    exact ⟨ts, texts?_eq_ok hts, (Except.ok.inj h).symm⟩
  · cases h

/-- The rows can be read if and only if all of them hold texts. -/
theorem entries?_isOk (d : Database) : (∃ es, d.entries? = .ok es) ↔ d.AllText := by
  constructor
  · rintro ⟨es, h⟩ r hr
    obtain ⟨ts, hrows, -⟩ := entries?_eq_ok h
    rw [hrows] at hr
    obtain ⟨t, -, rfl⟩ := List.mem_map.1 hr
    exact ⟨t.2, rfl⟩
  · intro h
    obtain ⟨ts, hts⟩ := exists_texts? h
    exact ⟨ts.filterMap place?, by rw [entries?, hts]; rfl⟩

theorem ofName?_eq_some {s : String} {a : Area} (h : Area.ofName? s = some a) : a.name = s := by
  unfold Area.ofName? at h
  split at h
  · cases h
    exact Eq.symm ‹_›
  · split at h
    · cases h
      exact Eq.symm ‹_›
    · cases h

theorem place?_eq_some {r : (String × String) × String} {e : Place × String}
    (h : place? r = some e) : r = (rowOf e.1, e.2) := by
  obtain ⟨a, ha, rfl⟩ := Option.map_eq_some_iff.1 h
  obtain ⟨⟨area, key⟩, s⟩ := r
  rw [rowOf, ofName?_eq_some ha]

theorem place?_rowOf (p : Place) (s : String) : place? (rowOf p, s) = some (p, s) := by
  simp [place?, rowOf]

/-- What is read of a place is what its row holds. -/
theorem get?_entries {d : Database} {es : Table Place String} (h : d.entries? = .ok es)
    (p : Place) : d.rows.get? (rowOf p) = (es.get? p).map .text := by
  obtain ⟨ts, hrows, rfl⟩ := entries?_eq_ok h
  rw [hrows]
  clear h hrows
  induction ts with
  | nil => rfl
  | cons r ts ih =>
    rw [List.map_cons, List.filterMap_cons]
    cases he : place? r with
    | none =>
      have other : rowOf p ≠ r.1 := by
        intro hr
        have := place?_rowOf p r.2
        rw [hr, he] at this
        cases this
      simp only [Table.get?, if_neg other, ih]
    | some e =>
      obtain rfl := place?_eq_some he
      by_cases hp : p = e.1
      · simp [Table.get?, hp]
      · have other : rowOf p ≠ rowOf e.1 := fun hr => hp (rowOf_injective hr)
        simp only [Table.get?, if_neg other, if_neg hp, ih]

theorem keyed_entries {d : Database} {es : Table Place String} (h : d.entries? = .ok es) :
    es.Keyed := by
  obtain ⟨ts, hrows, rfl⟩ := entries?_eq_ok h
  have keyed : (ts.map Prod.fst).Nodup := by
    have := d.keyed
    rwa [Table.Keyed, hrows, List.map_map] at this
  clear h hrows
  induction ts with
  | nil => exact List.nodup_nil
  | cons r ts ih =>
    obtain ⟨hr, hts⟩ := List.nodup_cons.1 keyed
    rw [List.filterMap_cons]
    cases he : place? r with
    | none => exact ih hts
    | some e =>
      obtain rfl := place?_eq_some he
      refine (Table.keyed_cons ..).2 ⟨fun hmem => hr ?_, ih hts⟩
      obtain ⟨e', he', hplace⟩ := List.mem_map.1 hmem
      obtain ⟨r', hr', hentry⟩ := List.mem_filterMap.1 he'
      obtain rfl := place?_eq_some hentry
      have : rowOf e'.1 ∈ ts.map Prod.fst := List.mem_map_of_mem hr'
      rwa [hplace] at this

/-! ## Commits -/

theorem AllText.upsert {d : Database} (h : d.AllText) (row : String × String) (t : String) :
    (d.upsert row (.text t)).AllText := by
  intro r hr
  have found := (d.upsert row (.text t)).keyed.get?_of_mem hr
  change Table.get? (Table.put row (.text t) d.rows) r.1 = some r.2 at found
  rw [Table.get?_put] at found
  split at found
  · exact ⟨t, (Option.some.inj found).symm⟩
  · exact h _ (Table.mem_of_get? found)

theorem AllText.delete {d : Database} (h : d.AllText) (row : String × String) :
    (d.delete row).AllText := by
  unfold Database.delete
  split
  · intro r hr
    exact h r (List.mem_filter.1 hr).1
  · exact h

end Reroute.Database
