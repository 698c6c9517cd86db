import Mathlib.Data.List.Nodup
import Reroute.Proofs.Storage.FailedPoll

/-!
# Rows of areas that are not known

A connection reads all rows before it passes over those of unknown areas. If these hold texts, all
that a connection sees depends on the rows of known areas, but for one thing: any commit makes a
poll look again. A poll that looks finds what one that does not look leaves out, unless an earlier
poll failed.

## Main definitions

* `Database.ForeignText` — rows of unknown areas hold texts.
* `Session.Alike` — sessions that know the same, at databases with the same known rows.
* `Session.finding` — what a poll finds if it looks.

## Main results

* `Connection.diff_congr` — differences depend on what the entries are, not on their order.
* `Session.Alike.finding` — sessions that are alike find the same.
* `Session.Alike.poll_iff` — polls of such sessions have one outcome exactly if the same rows are
  lost to both.
-/

namespace Reroute

/-! ## The order of places -/

namespace Place

theorem name_injective {a b : Area} (h : a.name = b.name) : a = b :=
  Option.some.inj ((Area.ofName?_name a).symm.trans (h ▸ Area.ofName?_name b))

theorem le_iff (p q : Place) :
    p.le q ↔ p.area = q.area ∧ p.key ≤ q.key ∨ p.area ≠ q.area ∧ p.area.name ≤ q.area.name := by
  unfold le
  split <;> simp_all

theorem le_trans {p q r : Place} (hpq : p.le q) (hqr : q.le r) : p.le r := by
  rw [le_iff] at *
  rcases hpq with ⟨pq, keys⟩ | ⟨pq, names⟩ <;> rcases hqr with ⟨qr, keys'⟩ | ⟨qr, names'⟩
  · exact .inl ⟨pq.trans qr, String.le_trans keys keys'⟩
  · exact .inr ⟨pq ▸ qr, pq ▸ names'⟩
  · exact .inr ⟨qr ▸ pq, qr ▸ names⟩
  · refine .inr ⟨fun pr => ?_, String.le_trans names names'⟩
    exact pq (name_injective (String.le_antisymm names (pr ▸ names')))

theorem le_total (p q : Place) : (p.le q || q.le p) = true := by
  rw [Bool.or_eq_true, le_iff, le_iff]
  by_cases same : p.area = q.area
  · rcases String.le_total p.key q.key with keys | keys
    · exact .inl (.inl ⟨same, keys⟩)
    · exact .inr (.inl ⟨same.symm, keys⟩)
  · rcases String.le_total p.area.name q.area.name with names | names
    · exact .inl (.inr ⟨same, names⟩)
    · exact .inr (.inr ⟨Ne.symm same, names⟩)

theorem le_antisymm {p q : Place} (hpq : p.le q) (hqp : q.le p) : p = q := by
  obtain ⟨a, k⟩ := p
  obtain ⟨b, l⟩ := q
  rw [le_iff] at *
  rcases hpq with ⟨same, keys⟩ | ⟨other, names⟩ <;>
    rcases hqp with ⟨same', keys'⟩ | ⟨other', names'⟩
  · exact congrArg₂ mk same (String.le_antisymm keys keys')
  · exact absurd same.symm other'
  · exact absurd same'.symm other
  · exact absurd (name_injective (String.le_antisymm names names')) other

end Place

/-! ## Differences -/

namespace Change.Between

variable {cs : List Change} {a b : Table Place String}

/-- The changes are determined by what the texts are. -/
theorem mem_iff (h : Between cs a b) (c : Change) :
    c ∈ cs ↔ a.get? c.place ≠ b.get? c.place ∧
      c.old = View.ofTexts a c.place ∧ c.new = View.ofTexts b c.place := by
  constructor
  · intro hc
    exact ⟨(h.mem_places _).1 (List.mem_map_of_mem hc), h.old c hc, h.new c hc⟩
  · rintro ⟨differs, old, new⟩
    obtain ⟨d, hd, place⟩ := List.mem_map.1 ((h.mem_places _).2 differs)
    have same : d = c := by
      obtain ⟨p, o, n⟩ := c
      obtain ⟨q, o', n'⟩ := d
      have hold := h.old _ hd
      have hnew := h.new _ hd
      grind
    exact same ▸ hd

theorem congr {a' b' : Table Place String} (h : Between cs a b) (ha : ∀ p, a'.get? p = a.get? p)
    (hb : ∀ p, b'.get? p = b.get? p) : Between cs a' b' where
  nodup := h.nodup
  mem_places p := by rw [ha, hb, h.mem_places]
  old c hc := by rw [View.ofTexts, ha, h.old c hc, View.ofTexts]
  new c hc := by rw [View.ofTexts, hb, h.new c hc, View.ofTexts]

/-- Changes between the same texts differ in their order only. -/
theorem perm_of_between {ds : List Change} (h : Between cs a b) (h' : Between ds a b) :
    cs.Perm ds := by
  rw [List.perm_ext_iff_of_nodup (List.Nodup.of_map _ h.nodup) (List.Nodup.of_map _ h'.nodup)]
  exact fun c => (h.mem_iff c).trans (h'.mem_iff c).symm

/-- There is one way to order the changes between two texts. -/
theorem unique {ds : List Change} (h : Between cs a b) (h' : Between ds a b)
    (sorted : cs.Pairwise fun c d => c.place.le d.place)
    (sorted' : ds.Pairwise fun c d => c.place.le d.place) : cs = ds := by
  have perm := h.perm_of_between h'
  refine perm.eq_of_pairwise (fun c d hc hd hcd hdc => ?_) sorted sorted'
  have place : c.place = d.place := Place.le_antisymm hcd hdc
  exact List.inj_on_of_nodup_map h.nodup hc (perm.mem_iff.2 hd) place

end Change.Between

namespace Connection

theorem sorted_diff (a b : Table Place String) :
    (diff a b).Pairwise fun c d => c.place.le d.place := by
  have trans (c d e : Change) (hcd : c.place.le d.place = true) (hde : d.place.le e.place = true) :
      c.place.le e.place = true := Place.le_trans hcd hde
  have total (c d : Change) : (c.place.le d.place || d.place.le c.place) = true :=
    Place.le_total c.place d.place
  exact List.pairwise_mergeSort trans total _

/-- Differences depend on what the entries are, not on their order. -/
theorem diff_congr {a a' b b' : Table Place String} (ha : a.Keyed) (ha' : a'.Keyed) (hb : b.Keyed)
    (hb' : b'.Keyed) (same : ∀ p, a'.get? p = a.get? p) (same' : ∀ p, b'.get? p = b.get? p) :
    diff a' b' = diff a b :=
  ((diff_between ha' hb').congr (fun p => (same p).symm) fun p => (same' p).symm).unique
    (diff_between ha hb) (sorted_diff a' b') (sorted_diff a b)

/-- There are no differences exactly if all entries are the same. -/
theorem diff_eq_nil_iff {a b : Table Place String} (ha : a.Keyed) (hb : b.Keyed) :
    diff a b = [] ↔ ∀ p, a.get? p = b.get? p := by
  have between := diff_between ha hb
  constructor
  · intro none p
    have absent := between.mem_places p
    rw [none] at absent
    simpa using absent
  · intro same
    refine List.eq_nil_iff_forall_not_mem.2 fun c hc => ?_
    exact ((between.mem_iff c).1 hc).1 (same c.place)

end Connection

/-! ## Databases -/

namespace Database

/-- Rows of unknown areas hold texts. -/
def ForeignText (d : Database) : Prop :=
  ∀ row c, Area.ofName? row.1 = none → d.rows.get? row = some c → ∃ t, c = .text t

/-- A row is that of a place, or its area is unknown. -/
theorem row_cases (row : String × String) :
    (∃ p, row = rowOf p) ∨ Area.ofName? row.1 = none := by
  cases h : Area.ofName? row.1 with
  | none => exact .inr rfl
  | some a => exact .inl ⟨⟨a, row.2⟩, by rw [rowOf, ofName?_eq_some h]⟩

/-- Rows of known areas alone decide whether all rows can be read. -/
theorem ForeignText.allText_iff {d : Database} (h : d.ForeignText) :
    d.AllText ↔ ∀ p c, d.rows.get? (rowOf p) = some c → ∃ t, c = .text t := by
  constructor
  · intro text p c hc
    exact text _ (Table.mem_of_get? hc)
  · intro text r hr
    have found := d.keyed.get?_of_mem hr
    rcases row_cases r.1 with ⟨p, hp⟩ | foreign
    · exact text p r.2 (hp ▸ found)
    · exact h r.1 r.2 foreign found

/-- Reading fails for one reason. -/
theorem error_of_entries? {d : Database} {e : StorageError} (h : d.entries? = .error e) :
    e = .notAText := by
  have failed : texts? d.rows = .error e := by
    unfold entries? at h
    split at h
    · cases h
    · rename_i he
      rw [he, Except.error.inj h]
  generalize d.rows = rows at failed
  induction rows with
  | nil => cases failed
  | cons r rows ih =>
    obtain ⟨row, c⟩ := r
    cases c with
    | blob bytes =>
      cases failed
      rfl
    | text t =>
      unfold texts? at failed
      split at failed
      · cases failed
      · rename_i he
        exact ih (he.trans failed)

theorem ForeignText.upsert {d : Database} (h : d.ForeignText) {row : String × String} {c : Cell}
    (hc : Area.ofName? row.1 = none → ∃ t, c = .text t) : (d.upsert row c).ForeignText := by
  intro r cell foreign hr
  have found : Table.get? (Table.put row c d.rows) r = some cell := hr
  rw [Table.get?_put] at found
  split at found
  · rename_i same
    exact Option.some.inj found ▸ hc (same ▸ foreign)
  · exact h r cell foreign found

theorem get?_delete (d : Database) (row r : String × String) :
    (d.delete row).rows.get? r = if r = row then none else d.rows.get? r := by
  unfold delete
  split
  · exact Table.get?_erase row r d.rows
  · rename_i absent
    split
    · rename_i same
      rw [same]
      exact Option.not_isSome_iff_eq_none.1 absent
    · rfl

theorem ForeignText.delete {d : Database} (h : d.ForeignText) (row : String × String) :
    (d.delete row).ForeignText := by
  intro r cell foreign hr
  rw [get?_delete] at hr
  split at hr
  · cases hr
  · exact h r cell foreign hr

/-- The known rows are the same. -/
def SameKnown (d d' : Database) : Prop :=
  ∀ p, d'.rows.get? (rowOf p) = d.rows.get? (rowOf p)

namespace SameKnown

variable {d d' : Database}

theorem symm (h : d.SameKnown d') : d'.SameKnown d := fun p => (h p).symm

theorem upsert (h : d.SameKnown d') (row : String × String) (c : Cell) :
    (d.upsert row c).SameKnown (d'.upsert row c) := by
  intro p
  change Table.get? (Table.put row c d'.rows) _ = Table.get? (Table.put row c d.rows) _
  rw [Table.get?_put, Table.get?_put, h p]

theorem delete (h : d.SameKnown d') (row : String × String) :
    (d.delete row).SameKnown (d'.delete row) := by
  intro p
  rw [get?_delete, get?_delete, h p]

theorem rowOf_ne {row : String × String} (foreign : Area.ofName? row.1 = none) (p : Place) :
    rowOf p ≠ row := by
  rintro rfl
  rw [rowOf, Area.ofName?_name] at foreign
  cases foreign

/-- Commits to unknown areas leave the known rows. -/
theorem upsert_foreign (h : d.SameKnown d') {row : String × String}
    (foreign : Area.ofName? row.1 = none) (c : Cell) : d.SameKnown (d'.upsert row c) := by
  intro p
  change Table.get? (Table.put row c d'.rows) _ = _
  rw [Table.get?_put, if_neg (rowOf_ne foreign p), h p]

theorem delete_foreign (h : d.SameKnown d') {row : String × String}
    (foreign : Area.ofName? row.1 = none) : d.SameKnown (d'.delete row) := by
  intro p
  rw [get?_delete, if_neg (rowOf_ne foreign p), h p]

end SameKnown

/-- What is read of databases with the same known rows is the same, or it is nothing. -/
theorem SameKnown.entries? {d d' : Database} (h : d.SameKnown d') (text : d.ForeignText)
    (text' : d'.ForeignText) :
    (d.entries? = .error .notAText ∧ d'.entries? = .error .notAText) ∨
      ∃ es es', d.entries? = .ok es ∧ d'.entries? = .ok es' ∧ ∀ p, es'.get? p = es.get? p := by
  have all : d'.AllText ↔ d.AllText := by
    rw [text.allText_iff, text'.allText_iff]
    exact forall_congr' fun p => by rw [h p]
  rw [← entries?_isOk, ← entries?_isOk] at all
  cases he : d.entries? with
  | error e =>
    cases he' : d'.entries? with
    | error e' => exact .inl ⟨by rw [error_of_entries? he], by rw [error_of_entries? he']⟩
    | ok es' =>
      obtain ⟨es, hes⟩ := all.1 ⟨es', he'⟩
      rw [he] at hes
      cases hes
  | ok es =>
    obtain ⟨es', he'⟩ := all.2 ⟨es, he⟩
    refine .inr ⟨es, es', rfl, he', fun p => ?_⟩
    have row := h p
    rw [get?_entries he, get?_entries he'] at row
    exact Option.map_injective (fun _ _ => Cell.text.inj) row

end Database

/-! ## Sessions -/

namespace Session

/-- Sessions that know the same and feed the same listeners, at databases with the same known
rows. -/
structure Alike (s s' : Session) : Prop where
  rows : s.database.SameKnown s'.database
  snapshot : ∀ p, s'.connection.snapshot.get? p = s.connection.snapshot.get? p
  feed : s'.connection.feed = s.connection.feed

/-- Nothing that others wrote is passed over by a poll that does not look. -/
def Quiet (s : Session) : Prop := s.connection.noted = s.current

instance (s : Session) : Decidable s.Quiet := inferInstanceAs (Decidable (_ = _))

/-- What a poll finds if it looks. -/
def finding (s : Session) : Except StorageError (List Change) :=
  s.database.entries?.map (Connection.diff s.connection.snapshot)

/-- What a poll returns and announces. -/
def pollOutcome (s : Session) : Except StorageError Nat × List Change :=
  (s.poll.1, s.announced .poll)

/-- What a poll returns and announces of what it finds. -/
def outcomeOf : Except StorageError (List Change) → Except StorageError Nat × List Change
  | .ok cs => (.ok cs.length, cs)
  | .error e => (.error e, [])

theorem outcomeOf_eq_iff {r : Except StorageError (List Change)} :
    outcomeOf r = (.ok 0, []) ↔ r = .ok [] := by
  cases r with
  | error e => exact ⟨nofun, nofun⟩
  | ok cs =>
    constructor
    · intro none
      exact congrArg Except.ok (congrArg Prod.snd none)
    · rintro ⟨⟩
      rfl

/-- A poll that need not look does nothing; any other tells what it finds. -/
theorem pollOutcome_eq (s : Session) :
    s.pollOutcome = if s.Quiet then (.ok 0, []) else outcomeOf s.finding := by
  unfold pollOutcome
  rcases s.poll_cases with ⟨noted, hp⟩ | ⟨noted, e, he, hp⟩ | ⟨noted, entries, he, hp⟩
  · have quiet : s.Quiet := noted
    simp only [announced, hp, if_pos noted, if_pos quiet]
  · have looks : ¬s.Quiet := noted
    simp only [announced, hp, if_neg noted, if_neg looks, finding, he, Except.map, outcomeOf]
  · have looks : ¬s.Quiet := noted
    simp only [announced, hp, if_neg noted, if_neg looks, finding, he, Except.map, outcomeOf]

/-- What a poll leaves in the snapshot. -/
theorem snapshot_poll (s : Session) :
    s.poll.2.connection.snapshot =
      if s.Quiet then s.connection.snapshot
      else match s.database.entries? with
        | .ok entries => entries
        | .error _ => s.connection.snapshot := by
  rcases s.poll_cases with ⟨noted, hp⟩ | ⟨noted, e, he, hp⟩ | ⟨noted, entries, he, hp⟩
  · have quiet : s.Quiet := noted
    rw [hp, if_pos quiet]
  · have looks : ¬s.Quiet := noted
    rw [hp, if_neg looks, he]
  · have looks : ¬s.Quiet := noted
    rw [hp, if_neg looks, he]

/-- A poll that looks finds nothing exactly if all rows are known. -/
theorem Coherent.finding_eq_nil_iff {s : Session} (c : s.Coherent) (text : s.database.ForeignText) :
    s.finding = .ok [] ↔ ∀ p, s.Agrees p := by
  unfold finding
  cases he : s.database.entries? with
  | ok es =>
    have found : Except.map (Connection.diff s.connection.snapshot) (.ok es) =
        (.ok (Connection.diff s.connection.snapshot es) : Except StorageError (List Change)) := rfl
    rw [found, Except.ok.injEq, Connection.diff_eq_nil_iff c.keyed (Database.keyed_entries he)]
    exact forall_congr' fun p => not_iff_not.1 (not_agrees_iff he p).symm
  | error e =>
    refine ⟨nofun, fun known => ?_⟩
    have all : s.database.AllText := text.allText_iff.2 fun p cell hc => by
      rw [known p] at hc
      obtain ⟨t, -, ht⟩ := Option.map_eq_some_iff.1 hc
      exact ⟨t, ht.symm⟩
    obtain ⟨es, hes⟩ := (Database.entries?_isOk _).2 all
    rw [he] at hes
    cases hes

theorem lost_iff (s : Session) (p : Place) : Lost p s ↔ s.Quiet ∧ ¬s.Agrees p := Iff.rfl

namespace Alike

variable {s s' : Session}

theorem symm (h : Alike s s') : Alike s' s :=
  ⟨h.rows.symm, fun p => (h.snapshot p).symm, h.feed.symm⟩

/-- Commits, known or not, concern the database only. -/
theorem withDatabase (h : Alike s s') {d d' : Database} (same : d.SameKnown d') :
    Alike (s.withDatabase d) (s'.withDatabase d') := ⟨same, h.snapshot, h.feed⟩

theorem withFeed (h : Alike s s') (feed : Feed) : Alike (s.withFeed feed) (s'.withFeed feed) :=
  ⟨h.rows, h.snapshot, rfl⟩

theorem get (h : Alike s s') (p : Place) : s'.get p = s.get p := by
  unfold Session.get
  rw [h.rows p]

theorem announced_set (h : Alike s s') (p : Place) (v : Json) :
    s'.announced (.set p v) = s.announced (.set p v) := by
  simp only [announced, h.snapshot p, view, View.ofTexts]

theorem set (h : Alike s s') (p : Place) (v : Json) : Alike (s.set p v) (s'.set p v) := by
  rw [set_eq, set_eq, h.announced_set, h.feed]
  refine ⟨h.rows.upsert _ _, fun q => ?_, rfl⟩
  simp only [Table.get?_put, h.snapshot q]

theorem agrees_congr (h : Alike s s') (p : Place) : s'.Agrees p ↔ s.Agrees p := by
  unfold Agrees
  rw [h.rows p, h.snapshot p]

/-- Sessions that are alike find the same. -/
theorem finding (h : Alike s s') (c : s.Coherent) (c' : s'.Coherent)
    (text : s.database.ForeignText) (text' : s'.database.ForeignText) :
    s'.finding = s.finding := by
  unfold Session.finding
  rcases h.rows.entries? text text' with ⟨he, he'⟩ | ⟨es, es', he, he', same⟩
  · rw [he, he']
    rfl
  · rw [he, he']
    exact congrArg Except.ok (Connection.diff_congr c.keyed c'.keyed (Database.keyed_entries he)
      (Database.keyed_entries he') h.snapshot same)

/-- The same rows are lost to both exactly if both look, or none does, or all rows are known. -/
theorem lost_iff (h : Alike s s') :
    (∀ p, Lost p s' ↔ Lost p s) ↔ (s'.Quiet ↔ s.Quiet) ∨ ∀ p, s.Agrees p := by
  simp only [Session.lost_iff, h.agrees_congr]
  constructor
  · intro same
    by_cases known : ∀ p, s.Agrees p
    · exact .inr known
    · obtain ⟨p, unknown⟩ := not_forall.1 known
      exact .inl (by simpa [unknown] using same p)
  · rintro (quiet | known) p
    · rw [quiet]
    · simp [known p]

/-- Polls of sessions that are alike have the same outcome exactly if the same rows are lost to
both. -/
theorem poll_iff (h : Alike s s') (c : s.Coherent) (c' : s'.Coherent)
    (text : s.database.ForeignText) (text' : s'.database.ForeignText) :
    s'.pollOutcome = s.pollOutcome ↔ ∀ p, Lost p s' ↔ Lost p s := by
  rw [h.lost_iff, ← c.finding_eq_nil_iff text, ← outcomeOf_eq_iff, pollOutcome_eq, pollOutcome_eq,
    h.finding c c' text text']
  by_cases quiet : s.Quiet <;> by_cases quiet' : s'.Quiet <;> simp [quiet, quiet', eq_comm]

/-- After such polls the sessions are still alike. -/
theorem poll (h : Alike s s') (c : s.Coherent) (c' : s'.Coherent)
    (text : s.database.ForeignText) (text' : s'.database.ForeignText)
    (same : ∀ p, Lost p s' ↔ Lost p s) : Alike s.poll.2 s'.poll.2 where
  rows := by
    rw [database_poll, database_poll]
    exact h.rows
  snapshot p := by
    rw [snapshot_poll, snapshot_poll]
    rcases h.rows.entries? text text' with ⟨he, he'⟩ | ⟨es, es', he, he', entries⟩
    · simpa only [he, he', ite_self] using h.snapshot p
    · simp only [he, he']
      rcases h.lost_iff.1 same with quiet | known
      · by_cases looks : s.Quiet
        · rw [if_pos looks, if_pos (quiet.2 looks)]
          exact h.snapshot p
        · rw [if_neg looks, if_neg fun q => looks (quiet.1 q)]
          exact entries p
      · -- All rows are known, so that looking again makes no difference.
        have now : es.get? p = s.connection.snapshot.get? p :=
          not_not.1 fun other => (not_agrees_iff he p).2 (Ne.symm other) (known p)
        have now' : es'.get? p = s'.connection.snapshot.get? p := by
          rw [entries p, now, h.snapshot p]
        by_cases looks : s.Quiet <;> by_cases looks' : s'.Quiet <;>
          simp only [looks, looks', if_true, if_false, now, now', h.snapshot p]
  feed := by
    have outcome := (h.poll_iff c c' text text').2 same
    have announced : s'.announced .poll = s.announced .poll := congrArg Prod.snd outcome
    change (s'.step .poll).connection.feed = (s.step .poll).connection.feed
    rw [step_feed, step_feed, h.feed, announced]

end Alike

end Session

end Reroute
