import Reroute.Proofs.Storage.Diff
import Reroute.Proofs.Storage.Feed
import Reroute.Proofs.Storage.Rows

/-!
# Runs of a connection

One connection writes and polls while others commit. What a connection announces at every event
keeps those who listen up to its snapshot.

## Main definitions

* `Session.Event`, `Session.after` — what may happen, and a session after some events.
* `Session.announced` — the changes that an event announces.
* `Session.Coherent` — what holds at all times, `Session.Agrees` — a place whose row is known.

## Main results

* `Session.poll_cases` — what a poll can do.
* `Session.Coherent.step` — every event keeps a session coherent.
* `Session.Coherent.replay_announced`, `Session.Coherent.exact_announced` — what is announced leads
  from the snapshot before to the one after.
-/

namespace Reroute.Session

/-- What may happen at a database: a write of the connection, commits of others, and a poll. -/
inductive Event where
  | set (p : Place) (v : Json)
  | upsert (row : String × String) (c : Cell)
  | delete (row : String × String)
  | poll

def step (s : Session) : Event → Session
  | .set p v => s.set p v
  | .upsert row c => s.withDatabase (s.database.upsert row c)
  | .delete row => s.withDatabase (s.database.delete row)
  | .poll => s.poll.2

/-- The session after some events. -/
def after (s : Session) (es : List Event) : Session := es.foldl step s

/-- The number by which the connection tells whether others have committed. -/
def current (s : Session) : Nat := version s.database s.connection.own

/-- The values that the snapshot knows. -/
def view (s : Session) : View := .ofTexts s.connection.snapshot

/-- The changes that an event announces. -/
def announced (s : Session) : Event → List Change
  | .set p v =>
    if s.connection.snapshot.get? p = some v.print then [] else [⟨p, s.view p, some v⟩]
  | .poll =>
    if s.connection.noted = s.current then []
    else
      match s.database.entries? with
      | .ok entries => Connection.diff s.connection.snapshot entries
      | .error _ => []
  | _ => []

/-! ## What an event does -/

theorem announce_eq (c : Connection) (p : Place) (v : Json) (text : String)
    (old : Option String) :
    c.announce p v text old = { c with
      feed := c.feed.publishAll (if old = some text then [] else
        [⟨p, old.bind Json.read?, some v⟩]) } := by
  unfold Connection.announce
  split <;> rfl

theorem set_eq (s : Session) (p : Place) (v : Json) :
    s.set p v = {
      database := s.database.upsert (Database.rowOf p) (.text v.print)
      connection := { s.connection with
        snapshot := s.connection.snapshot.put p v.print
        own := s.connection.own + 1
        feed := s.connection.feed.publishAll (s.announced (.set p v)) } } := by
  exact congrArg (Session.mk _) (announce_eq { s.connection with
    snapshot := s.connection.snapshot.put p v.print
    own := s.connection.own + 1 } p v v.print (s.connection.snapshot.get? p))

/-- A poll finds nothing to do, or fails and notes the version, or announces all differences. -/
theorem poll_cases (s : Session) :
    (s.connection.noted = s.current ∧ s.poll = (.ok 0, s)) ∨
    (s.connection.noted ≠ s.current ∧ ∃ e, s.database.entries? = .error e ∧
      s.poll = (.error e, { s with connection := { s.connection with noted := s.current } })) ∨
    (s.connection.noted ≠ s.current ∧ ∃ entries, s.database.entries? = .ok entries ∧
      s.poll = (.ok (Connection.diff s.connection.snapshot entries).length,
        { s with connection := { s.connection with
          snapshot := entries
          noted := s.current
          feed := s.connection.feed.publishAll
            (Connection.diff s.connection.snapshot entries) } })) := by
  by_cases h : s.connection.noted = s.current
  · refine .inl ⟨h, ?_⟩
    have same : s.connection.noted = version s.database s.connection.own := h
    simp only [poll, look, if_pos same]
  · have other : ¬s.connection.noted = version s.database s.connection.own := h
    cases he : s.database.entries? with
    | error e =>
      refine .inr (.inl ⟨h, e, rfl, ?_⟩)
      simp only [poll, look, if_neg other, he]
      rfl
    | ok entries =>
      refine .inr (.inr ⟨h, entries, rfl, ?_⟩)
      simp only [poll, look, if_neg other, he]
      rfl

theorem step_feed (s : Session) (e : Event) :
    (s.step e).connection.feed = s.connection.feed.publishAll (s.announced e) := by
  cases e with
  | set p v =>
    change (s.set p v).connection.feed = _
    rw [set_eq]
  | upsert row c => rfl
  | delete row => rfl
  | poll =>
    change s.poll.2.connection.feed = _
    simp only [announced]
    rcases s.poll_cases with ⟨h, hp⟩ | ⟨h, e, he, hp⟩ | ⟨h, entries, he, hp⟩
    · rw [hp, if_pos h]
      rfl
    · rw [hp, if_neg h, he]
      rfl
    · rw [hp, if_neg h, he]

/-! ## What holds at all times -/

/-- The connection does not claim more commits or a later version than there are, and its parts are
in order. -/
structure Coherent (s : Session) : Prop where
  own_le : s.connection.own ≤ s.database.commits
  noted_le : s.connection.noted ≤ s.current
  keyed : s.connection.snapshot.Keyed
  sound : s.connection.feed.Sound

theorem coherent_of_open? {d : Database} {s : Session} (h : open? d = .ok s) : s.Coherent := by
  unfold open? at h
  split at h
  · rename_i entries he
    cases h
    exact ⟨Nat.zero_le _, Nat.le_refl _, Database.keyed_entries he, Feed.sound_empty⟩
  · cases h

@[simp] theorem current_set (s : Session) (p : Place) (v : Json) :
    (s.set p v).current = s.current := by
  rw [set_eq]
  exact Nat.add_sub_add_right ..

@[simp] theorem noted_set (s : Session) (p : Place) (v : Json) :
    (s.set p v).connection.noted = s.connection.noted := by
  rw [set_eq]

theorem Coherent.current_upsert {s : Session} (h : s.Coherent) (row : String × String) (c : Cell) :
    (s.step (.upsert row c)).current = s.current + 1 :=
  Nat.sub_add_comm h.own_le

/-- Taking a row out is a commit, unless there is none. -/
theorem Coherent.delete_cases {s : Session} (h : s.Coherent) (row : String × String) :
    s.step (.delete row) = s ∨ (s.step (.delete row)).current = s.current + 1 := by
  simp only [step, withDatabase, Database.delete]
  split
  · exact .inr (Nat.sub_add_comm h.own_le)
  · exact .inl rfl

@[simp] theorem current_poll (s : Session) : s.poll.2.current = s.current := by
  rcases s.poll_cases with ⟨-, hp⟩ | ⟨-, e, -, hp⟩ | ⟨-, entries, -, hp⟩ <;> rw [hp] <;> rfl

/-- A poll reads the database and leaves it. -/
@[simp] theorem database_poll (s : Session) : s.poll.2.database = s.database := by
  rcases s.poll_cases with ⟨-, hp⟩ | ⟨-, e, -, hp⟩ | ⟨-, entries, -, hp⟩ <;> rw [hp]

/-- Every event keeps a session coherent. -/
theorem Coherent.step {s : Session} (h : s.Coherent) (e : Event) : (s.step e).Coherent := by
  have sound : (s.step e).connection.feed.Sound := step_feed s e ▸ h.sound.publishAll _
  cases e with
  | set p v =>
    have noted : (s.set p v).connection.noted ≤ (s.set p v).current := by
      rw [current_set, noted_set]
      exact h.noted_le
    change (s.set p v).Coherent
    refine ⟨?_, noted, ?_, sound⟩ <;> rw [set_eq]
    · exact Nat.add_le_add_right h.own_le 1
    · exact h.keyed.put _ _
  | upsert row c =>
    refine ⟨Nat.le_succ_of_le h.own_le, ?_, h.keyed, sound⟩
    rw [h.current_upsert]
    exact Nat.le_succ_of_le h.noted_le
  | delete row =>
    have commits : s.database.commits ≤ (s.database.delete row).commits := by
      unfold Database.delete
      split
      · exact Nat.le_succ _
      · exact Nat.le_refl _
    refine ⟨Nat.le_trans h.own_le commits, ?_, h.keyed, sound⟩
    exact Nat.le_trans h.noted_le (Nat.sub_le_sub_right commits _)
  | poll =>
    change s.poll.2.connection.feed.Sound at sound
    change s.poll.2.Coherent
    rcases s.poll_cases with ⟨-, hp⟩ | ⟨-, e, -, hp⟩ | ⟨-, entries, he, hp⟩
    · rwa [hp]
    · rw [hp] at sound ⊢
      exact ⟨h.own_le, Nat.le_refl _, h.keyed, sound⟩
    · rw [hp] at sound ⊢
      exact ⟨h.own_le, Nat.le_refl _, Database.keyed_entries he, sound⟩

theorem Coherent.withFeed {s : Session} (h : s.Coherent) {feed : Feed} (sound : feed.Sound) :
    (s.withFeed feed).Coherent := ⟨h.own_le, h.noted_le, h.keyed, sound⟩

theorem Coherent.after {s : Session} (h : s.Coherent) (es : List Event) :
    (s.after es).Coherent := by
  induction es generalizing s with
  | nil => exact h
  | cons e es ih => exact ih (h.step e)

/-! ## What is announced -/

/-- A value that is written is read back from its text. -/
def Event.Legible : Event → Prop
  | .set _ v => Json.read? v.print = some v
  | _ => True

theorem view_set (s : Session) (p q : Place) {v : Json} (hv : Json.read? v.print = some v) :
    (s.set p v).view q = if q = p then some v else s.view q := by
  rw [set_eq]
  simp only [view, View.ofTexts, Table.get?_put]
  split <;> simp [hv]

/-- Those who listen are led from the snapshot before to the one after. -/
theorem Coherent.replay_announced {s : Session} (h : s.Coherent) {e : Event} (he : e.Legible) :
    s.view.replay (s.announced e) = (s.step e).view := by
  cases e with
  | set p v =>
    change _ = (s.set p v).view
    funext q
    rw [view_set s p q he]
    simp only [announced]
    split
    · rename_i known
      split
      · rename_i hq
        have hv : Json.read? v.print = some v := he
        simp [View.replay, view, View.ofTexts, hq, known, hv]
      · rfl
    · rfl
  | upsert row c => rfl
  | delete row => rfl
  | poll =>
    change _ = s.poll.2.view
    simp only [announced]
    rcases s.poll_cases with ⟨hn, hp⟩ | ⟨hn, e, hd, hp⟩ | ⟨hn, entries, hd, hp⟩
    · rw [hp, if_pos hn]
      rfl
    · rw [hp, if_neg hn, hd]
      rfl
    · rw [hp, if_neg hn, hd]
      exact (Connection.diff_between h.keyed (Database.keyed_entries hd)).replay

theorem Coherent.exact_announced {s : Session} (h : s.Coherent) (e : Event) :
    s.view.Exact (s.announced e) := by
  cases e with
  | set p v =>
    simp only [announced]
    split
    · trivial
    · exact ⟨rfl, trivial⟩
  | upsert row c => trivial
  | delete row => trivial
  | poll =>
    simp only [announced]
    split
    · trivial
    · split
      · rename_i entries hd
        exact (Connection.diff_between h.keyed (Database.keyed_entries hd)).exact
      · trivial

/-! ## Known rows -/

/-- The row of a place holds what the snapshot knows of it. -/
def Agrees (s : Session) (p : Place) : Prop :=
  s.database.rows.get? (Database.rowOf p) = (s.connection.snapshot.get? p).map .text

theorem agrees_of_open? {d : Database} {s : Session} (h : open? d = .ok s) (p : Place) :
    s.Agrees p := by
  unfold open? at h
  split at h
  · rename_i entries he
    cases h
    exact Database.get?_entries he p
  · cases h

theorem agrees_set (s : Session) (p q : Place) (v : Json) :
    (s.set p v).Agrees q ↔ q = p ∨ s.Agrees q := by
  unfold Agrees
  rw [set_eq]
  simp only [Database.upsert, Table.get?_put]
  by_cases hq : q = p
  · simp [hq]
  · have row : Database.rowOf q ≠ Database.rowOf p := fun e => hq (Database.rowOf_injective e)
    simp [hq, row]

/-- A poll that reads the rows leaves a snapshot of them. -/
theorem agrees_of_entries {s : Session} {entries : Table Place String} {f : Feed} {n : Nat}
    (h : s.database.entries? = .ok entries) (p : Place) :
    Agrees { s with connection := { s.connection with
      snapshot := entries, noted := n, feed := f } } p :=
  Database.get?_entries h p

theorem not_agrees_iff {s : Session} {entries : Table Place String}
    (h : s.database.entries? = .ok entries) (p : Place) :
    ¬s.Agrees p ↔ s.connection.snapshot.get? p ≠ entries.get? p := by
  unfold Agrees
  rw [Database.get?_entries h]
  refine not_congr ⟨fun e => ?_, fun e => by rw [e]⟩
  exact (Option.map_injective (fun _ _ => Cell.text.inj) e).symm

end Reroute.Session
