import Reroute.Proofs.Run
import Reroute.Proofs.Storage.Log

/-!
# Calls in flight at once

A write commits its row, puts the text into the snapshot and announces it; a poll reads the rows,
replaces the snapshot and announces the differences. Each of these steps is made under a lock, and
steps of other calls may come between them. So a call may bring to the snapshot what is not in the
row any more. Later polls do not look at that row, since no other connection has committed.

## Main definitions

* `Task`, `Task.advance` — a call in flight, and its next step.
* `Concurrent`, `Concurrent.step` — a session with the calls in flight, and what may happen.
* `Concurrent.Informed` — a call in flight knows a row.
* `Concurrent.Lost` — a row that is not known, and that nothing under way will make known.
* `Concurrent.Overtaken`, `Concurrent.Unrepaired` — how a row is lost, and how it stays so.

## Main results

* `Concurrent.after_set`, `Concurrent.after_poll` — calls whose steps follow one another.
* `Concurrent.Orderly.lost_step` — how an event makes a row lost.
* `Concurrent.agrees_iff` — which rows are known when all calls have returned.
* `Concurrent.exists_overtaken` — a row that is not.
-/

namespace Reroute

/-! ## Calls in flight -/

/-- A call in flight, with what it holds between its steps. -/
inductive Task where
  /-- A write whose row is committed. -/
  | committed (p : Place) (v : Json)
  /-- A write that the snapshot knows; `old` is what it knew before. -/
  | remembered (p : Place) (v : Json) (old : Option String)
  /-- A poll that has read the rows. -/
  | read (entries : Table Place String)
  /-- A poll that has replaced the snapshot. -/
  | settled (changes : List Change)
  | returned
  deriving DecidableEq

namespace Task

/-- The next step of a call. -/
def advance (c : Connection) : Task → Connection × Task
  | committed p v =>
    let (old, c) := c.remember p v.print
    (c, remembered p v old)
  | remembered p v old => (c.announce p v v.print old, returned)
  | read entries =>
    let (changes, c) := c.settle entries
    (c, settled changes)
  | settled changes => (c.announceAll changes, returned)
  | returned => (c, returned)

/-- What the next step of a call makes of the snapshot. -/
def overwrite (snapshot : Table Place String) : Task → Table Place String
  | committed p v => snapshot.put p v.print
  | read entries => entries
  | _ => snapshot

/-- What the next step of a call writes to the snapshot at a place, if it writes there. -/
def brings? (p : Place) : Task → Option (Option String)
  | committed q v => if q = p then some (some v.print) else none
  | read entries => some (entries.get? p)
  | _ => none

/-- No place is held twice. -/
def Keyed : Task → Prop
  | read entries => entries.Keyed
  | _ => True

theorem get?_overwrite (t : Task) (snapshot : Table Place String) (p : Place) :
    (t.overwrite snapshot).get? p = (t.brings? p).getD (snapshot.get? p) := by
  cases t with
  | committed q v =>
    refine (Table.get?_put ..).trans ?_
    by_cases hq : q = p
    · simp [brings?, hq]
    · simp [brings?, hq, Ne.symm hq]
  | _ => rfl

theorem Keyed.overwrite {t : Task} (ht : t.Keyed) {snapshot : Table Place String}
    (h : snapshot.Keyed) : (t.overwrite snapshot).Keyed := by
  cases t with
  | committed p v => exact h.put p v.print
  | read entries => exact ht
  | _ => exact h

variable (c : Connection) (t : Task)

/-- A step of a call concerns the snapshot and the feed of the connection only. -/
theorem advance_fst : ∃ cs, (t.advance c).1 =
    { c with snapshot := t.overwrite c.snapshot, feed := c.feed.publishAll cs } := by
  cases t with
  | remembered p v old => exact ⟨_, Session.announce_eq c p v v.print old⟩
  | settled changes => exact ⟨changes, rfl⟩
  | _ => exact ⟨[], rfl⟩

/-- A call writes to the snapshot at most once. -/
theorem brings?_advance (p : Place) : (t.advance c).2.brings? p = none := by cases t <;> rfl

theorem keyed_advance : (t.advance c).2.Keyed := by cases t <;> trivial

end Task

/-- A session and the calls in flight on its connection. -/
structure Concurrent where
  session : Session
  tasks : List Task

namespace Concurrent

/-- No call is in flight. -/
def start (s : Session) : Concurrent := ⟨s, []⟩

/-- What may happen: a write or a poll begins, a call makes its next step, or another connection
commits. -/
inductive Event where
  | set (p : Place) (v : Json)
  | poll
  | advance (k : Nat)
  | upsert (row : String × String) (c : Cell)
  | delete (row : String × String)

def step (t : Concurrent) : Event → Concurrent
  | .set p v => ⟨t.session.commit p v.print, t.tasks ++ [.committed p v]⟩
  | .poll =>
    match t.session.look with
    | (.ok (some entries), s) => ⟨s, t.tasks ++ [.read entries]⟩
    | (_, s) => ⟨s, t.tasks ++ [.returned]⟩
  | .advance k =>
    match t.tasks[k]? with
    | some task =>
      let (c, task) := task.advance t.session.connection
      ⟨{ t.session with connection := c }, t.tasks.set k task⟩
    | none => t
  | .upsert row c => { t with session := t.session.step (.upsert row c) }
  | .delete row => { t with session := t.session.step (.delete row) }

/-- The state after some events. -/
def after (t : Concurrent) (es : List Event) : Concurrent := es.foldl step t

/-- Only texts are committed. -/
def Event.Textual : Event → Prop
  | .upsert row c => (Session.Event.upsert row c).Textual
  | _ => True

/-- No other connection commits. -/
def Quiet (t : Concurrent) (e : Event) : Prop := (t.step e).session.current = t.session.current

/-- All calls have returned. -/
def Idle (t : Concurrent) : Prop := ∀ task ∈ t.tasks, task = .returned

/-! ## Calls whose steps follow one another -/

theorem step_advance {t : Concurrent} {k : Nat} {task : Task} (h : t.tasks[k]? = some task) :
    t.step (.advance k) = ⟨{ t.session with connection := (task.advance t.session.connection).1 },
      t.tasks.set k (task.advance t.session.connection).2⟩ := by
  simp only [step, h]

theorem step_advance_none {t : Concurrent} {k : Nat} (h : t.tasks[k]? = none) :
    t.step (.advance k) = t := by
  simp only [step, h]

/-- The steps of the latest call. -/
theorem step_advance_last (s : Session) (tasks : List Task) (task : Task) :
    step ⟨s, tasks ++ [task]⟩ (.advance tasks.length) =
      ⟨{ s with connection := (task.advance s.connection).1 },
        tasks ++ [(task.advance s.connection).2]⟩ := by
  rw [step_advance (List.getElem?_concat_length)]
  simp

theorem step_advance_twice (s : Session) (tasks : List Task) (task : Task) {next : Task}
    {c c' : Connection} (first : task.advance s.connection = (c, next))
    (second : next.advance c = (c', .returned)) :
    (step ⟨s, tasks ++ [task]⟩ (.advance tasks.length)).step (.advance tasks.length) =
      ⟨{ s with connection := c' }, tasks ++ [.returned]⟩ := by
  rw [step_advance_last, first, step_advance_last, second]

/-- A write that nothing comes between is one event of the session. -/
theorem after_set (t : Concurrent) (p : Place) (v : Json) :
    let k := t.tasks.length
    t.after [.set p v, .advance k, .advance k] = ⟨t.session.set p v, t.tasks ++ [.returned]⟩ :=
  step_advance_twice (t.session.commit p v.print) t.tasks (.committed p v) rfl rfl

/-- A poll that nothing comes between is one event of the session. -/
theorem after_poll (t : Concurrent) :
    let k := t.tasks.length
    t.after [.poll, .advance k, .advance k] = ⟨t.session.poll.2, t.tasks ++ [.returned]⟩ := by
  intro k
  change ((t.step .poll).step (.advance k)).step (.advance k) = _
  obtain ⟨⟨found, s⟩, looked⟩ : ∃ x, t.session.look = x := ⟨_, rfl⟩
  simp only [Session.poll, looked]
  rcases found with e | _ | entries
  · have begun : t.step .poll = ⟨s, t.tasks ++ [.returned]⟩ := by simp only [step, looked]
    rw [begun]
    exact step_advance_twice s t.tasks _ rfl rfl
  · have begun : t.step .poll = ⟨s, t.tasks ++ [.returned]⟩ := by simp only [step, looked]
    rw [begun]
    exact step_advance_twice s t.tasks _ rfl rfl
  · have begun : t.step .poll = ⟨s, t.tasks ++ [.read entries]⟩ := by simp only [step, looked]
    rw [begun]
    exact step_advance_twice s t.tasks _ rfl rfl

/-! ## What holds at all times -/

/-- The session is in order, its rows hold texts, and polls have read no place twice. -/
structure Orderly (t : Concurrent) : Prop where
  coherent : t.session.Coherent
  text : t.session.database.AllText
  keyed : ∀ task ∈ t.tasks, task.Keyed

theorem orderly_start {d : Database} {s : Session} (h : Session.open? d = .ok s) :
    (start s).Orderly :=
  ⟨Session.coherent_of_open? h, Session.allText_of_open? h, nofun⟩

theorem keyed_concat {tasks : List Task} (h : ∀ task ∈ tasks, task.Keyed) {task : Task}
    (ht : task.Keyed) : ∀ x ∈ tasks ++ [task], x.Keyed := by
  intro x hx
  rcases List.mem_append.1 hx with hx | hx
  · exact h x hx
  · obtain rfl := List.mem_singleton.1 hx
    exact ht

/-- The version is noted already, or it is noted now and the rows are read. -/
theorem Orderly.poll_cases {t : Concurrent} (h : t.Orderly) :
    (t.session.connection.noted = t.session.current ∧
      t.step .poll = { t with tasks := t.tasks ++ [.returned] }) ∨
    (t.session.connection.noted ≠ t.session.current ∧
      ∃ entries, t.session.database.entries? = .ok entries ∧
        t.step .poll = ⟨{ t.session with
            connection := { t.session.connection with noted := t.session.current } },
          t.tasks ++ [.read entries]⟩) := by
  obtain ⟨entries, he⟩ := (Database.entries?_isOk _).2 h.text
  by_cases noted : t.session.connection.noted = t.session.current
  · have same : t.session.connection.noted =
        Session.version t.session.database t.session.connection.own := noted
    refine .inl ⟨noted, ?_⟩
    simp only [step, Session.look, if_pos same]
  · have other : ¬t.session.connection.noted =
        Session.version t.session.database t.session.connection.own := noted
    refine .inr ⟨noted, entries, he, ?_⟩
    simp only [step, Session.look, if_neg other, he]
    rfl

theorem current_set (t : Concurrent) (p : Place) (v : Json) :
    (t.step (.set p v)).session.current = t.session.current := Nat.add_sub_add_right ..

/-- A step of a call concerns neither the database nor the versions. -/
theorem advance_versions (t : Concurrent) (k : Nat) :
    (t.step (.advance k)).session.current = t.session.current ∧
      (t.step (.advance k)).session.connection.noted = t.session.connection.noted := by
  cases hk : t.tasks[k]? with
  | none =>
    rw [step_advance_none hk]
    exact ⟨rfl, rfl⟩
  | some task =>
    obtain ⟨cs, advanced⟩ := task.advance_fst t.session.connection
    rw [step_advance hk, advanced]
    exact ⟨rfl, rfl⟩

theorem Orderly.step {t : Concurrent} (h : t.Orderly) {e : Event} (he : e.Textual) :
    (t.step e).Orderly := by
  cases e with
  | set p v =>
    have noted : t.session.connection.noted ≤ (t.step (.set p v)).session.current := by
      rw [current_set]
      exact h.coherent.noted_le
    exact ⟨⟨Nat.succ_le_succ h.coherent.own_le, noted, h.coherent.keyed, h.coherent.sound⟩,
      h.text.upsert _ _, keyed_concat h.keyed trivial⟩
  | poll =>
    rcases h.poll_cases with ⟨-, same⟩ | ⟨-, entries, he, looked⟩
    · rw [same]
      exact ⟨h.coherent, h.text, keyed_concat h.keyed trivial⟩
    · rw [looked]
      exact ⟨⟨h.coherent.own_le, Nat.le_refl _, h.coherent.keyed, h.coherent.sound⟩, h.text,
        keyed_concat h.keyed (Database.keyed_entries he)⟩
  | advance k =>
    cases hk : t.tasks[k]? with
    | none =>
      rw [step_advance_none hk]
      exact h
    | some task =>
      obtain ⟨cs, advanced⟩ := task.advance_fst t.session.connection
      have keyed : task.Keyed := h.keyed task (List.mem_of_getElem? hk)
      rw [step_advance hk, advanced]
      refine ⟨⟨h.coherent.own_le, h.coherent.noted_le, keyed.overwrite h.coherent.keyed,
        h.coherent.sound.publishAll cs⟩, h.text, fun x hx => ?_⟩
      rcases List.mem_or_eq_of_mem_set hx with hx | rfl
      · exact h.keyed x hx
      · exact task.keyed_advance t.session.connection
  | upsert row c =>
    exact ⟨h.coherent.step (.upsert row c), Session.allText_step h.text he, h.keyed⟩
  | delete row =>
    exact ⟨h.coherent.step (.delete row), Session.allText_step (e := .delete row) h.text trivial,
      h.keyed⟩

/-! ## Lost rows -/

/-- The row of a place holds a text, or there is no such row. -/
def Holds (t : Concurrent) (p : Place) (x : Option String) : Prop :=
  t.session.database.rows.get? (Database.rowOf p) = x.map .text

/-- A call in flight is about to bring the row to the snapshot as it is. -/
def Informed (p : Place) (t : Concurrent) : Prop :=
  ∃ task ∈ t.tasks, ∃ x, task.brings? p = some x ∧ t.Holds p x

/-- The row is not known, no call in flight knows it, and the version of the rows is noted, so that
no poll will look at it. -/
structure Lost (p : Place) (t : Concurrent) : Prop where
  noted : t.session.connection.noted = t.session.current
  unknown : ¬t.session.Agrees p
  uninformed : ¬Informed p t

/-- A call brings to the snapshot what it holds of a place, while no call in flight knows the row as
it is. -/
def Overtaken (p : Place) (t : Concurrent) (e : Event) : Prop :=
  ∃ k task x, e = .advance k ∧ t.tasks[k]? = some task ∧ task.brings? p = some x ∧
    t.session.connection.noted = t.session.current ∧ ¬Informed p t

/-- No other connection commits, and the place is not written. -/
def Unrepaired (p : Place) (t : Concurrent) (e : Event) : Prop :=
  Quiet t e ∧ ∀ v, e ≠ .set p v

/-- A call that begins may know the row. -/
theorem informed_concat {t : Concurrent} {p : Place} (s : Session) (task : Task)
    (row : s.database.rows.get? (Database.rowOf p) =
      t.session.database.rows.get? (Database.rowOf p)) :
    Informed p ⟨s, t.tasks ++ [task]⟩ ↔
      Informed p t ∨ ∃ x, task.brings? p = some x ∧ t.Holds p x := by
  simp only [Informed, Holds, row, List.mem_append, List.mem_singleton, or_and_right, exists_or,
    exists_eq_left]

/-- What a call knows after a step of another one it knew before. -/
theorem informed_of_advance {t : Concurrent} {p : Place} {k : Nat} {task : Task}
    (hk : t.tasks[k]? = some task) (h : Informed p (t.step (.advance k))) : Informed p t := by
  rw [step_advance hk] at h
  obtain ⟨other, member, x, brings, holds⟩ := h
  rcases List.mem_or_eq_of_mem_set member with member | rfl
  · exact ⟨other, member, x, brings, holds⟩
  · rw [task.brings?_advance] at brings
    cases brings

/-- A call knows a row until its own step brings it to the snapshot. -/
theorem Informed.advance {t : Concurrent} {p : Place} (h : Informed p t) {k : Nat} {task : Task}
    (hk : t.tasks[k]? = some task) :
    Informed p (t.step (.advance k)) ∨ ∃ x, task.brings? p = some x ∧ t.Holds p x := by
  obtain ⟨other, member, x, brings, holds⟩ := h
  obtain ⟨j, entry⟩ := List.mem_iff_getElem?.1 member
  by_cases same : k = j
  · subst same
    obtain rfl := Option.some.inj (hk.symm.trans entry)
    exact .inr ⟨x, brings, holds⟩
  · rw [step_advance hk]
    have stays : (t.tasks.set k (task.advance t.session.connection).2)[j]? = some other :=
      (List.getElem?_set_ne same).trans entry
    exact .inl ⟨other, List.mem_of_getElem? stays, x, brings, holds⟩

/-- A write makes its own row known to a call, and leaves other rows as they are. -/
theorem lost_set (t : Concurrent) (p q : Place) (v : Json) :
    Lost p (t.step (.set q v)) ↔ Lost p t ∧ Unrepaired p t (.set q v) := by
  have quiet : Quiet t (.set q v) := t.current_set q v
  have row : (t.step (.set q v)).session.database.rows.get? (Database.rowOf p) =
      if Database.rowOf p = Database.rowOf q then some (.text v.print)
      else t.session.database.rows.get? (Database.rowOf p) := Table.get?_put ..
  by_cases own : q = p
  · subst own
    constructor
    · intro lost
      refine absurd ?_ lost.uninformed
      exact ⟨.committed q v, List.mem_concat_self, some v.print, if_pos rfl,
        row.trans (if_pos rfl)⟩
    · rintro ⟨-, -, other⟩
      exact absurd rfl (other v)
  · have apart : Database.rowOf p ≠ Database.rowOf q := fun same =>
      own (Database.rowOf_injective same).symm
    rw [if_neg apart] at row
    have informed : Informed p (t.step (.set q v)) ↔ Informed p t := by
      refine (informed_concat _ (.committed q v) row).trans (or_iff_left ?_)
      rintro ⟨x, brings, -⟩
      simp [Task.brings?, own] at brings
    have agrees : (t.step (.set q v)).session.Agrees p ↔ t.session.Agrees p := by
      unfold Session.Agrees
      rw [row]
      rfl
    constructor
    · rintro ⟨noted, unknown, uninformed⟩
      refine ⟨⟨noted.trans quiet, mt agrees.2 unknown, mt informed.2 uninformed⟩, quiet, ?_⟩
      rintro w ⟨⟩
      exact own rfl
    · rintro ⟨⟨noted, unknown, uninformed⟩, -⟩
      exact ⟨noted.trans quiet.symm, mt agrees.1 unknown, mt informed.1 uninformed⟩

/-- A poll looks at all rows, if it looks at any. -/
theorem Orderly.lost_poll {t : Concurrent} (h : t.Orderly) (p : Place) :
    Lost p (t.step .poll) ↔ Lost p t ∧ Unrepaired p t .poll := by
  rcases h.poll_cases with ⟨noted, same⟩ | ⟨noted, entries, he, looked⟩
  · have informed : Informed p (t.step .poll) ↔ Informed p t := by
      rw [same]
      refine (informed_concat t.session .returned rfl).trans (or_iff_left ?_)
      rintro ⟨x, brings, -⟩
      cases brings
    have session : (t.step .poll).session = t.session := by rw [same]
    have quiet : Quiet t .poll := congrArg Session.current session
    constructor
    · rintro ⟨-, unknown, uninformed⟩
      exact ⟨⟨noted, session ▸ unknown, mt informed.2 uninformed⟩, quiet, nofun⟩
    · rintro ⟨⟨-, unknown, uninformed⟩, -⟩
      exact ⟨session ▸ noted, session ▸ unknown, mt informed.1 uninformed⟩
  · constructor
    · intro lost
      refine absurd ?_ lost.uninformed
      rw [looked]
      exact ⟨.read entries, List.mem_concat_self, entries.get? p, rfl, Database.get?_entries he p⟩
    · rintro ⟨lost, -⟩
      exact absurd lost.noted noted

theorem noted_advance (t : Concurrent) (k : Nat) :
    (t.step (.advance k)).session.connection.noted = (t.step (.advance k)).session.current ↔
      t.session.connection.noted = t.session.current := by
  obtain ⟨current, noted⟩ := t.advance_versions k
  rw [noted, current]

section Advance

variable {t : Concurrent} {p : Place} {k : Nat} {task : Task} (hk : t.tasks[k]? = some task)

include hk

/-- After a step of a call the snapshot has what the call brought, or what it had. -/
theorem agrees_advance : (t.step (.advance k)).session.Agrees p ↔
    t.Holds p ((task.brings? p).getD (t.session.connection.snapshot.get? p)) := by
  obtain ⟨cs, advanced⟩ := task.advance_fst t.session.connection
  rw [step_advance hk, advanced, ← task.get?_overwrite]
  rfl

theorem lost_advance_of_none (hb : task.brings? p = none) :
    Lost p (t.step (.advance k)) ↔ Lost p t := by
  have known := agrees_advance (p := p) hk
  simp only [hb, Option.getD_none] at known
  constructor
  · rintro ⟨noted, unknown, uninformed⟩
    refine ⟨(t.noted_advance k).1 noted, mt known.2 unknown, fun informed => ?_⟩
    rcases informed.advance hk with informed | ⟨x, brings, -⟩
    · exact uninformed informed
    · rw [hb] at brings
      cases brings
  · rintro ⟨noted, unknown, uninformed⟩
    exact ⟨(t.noted_advance k).2 noted, mt known.1 unknown, mt (informed_of_advance hk) uninformed⟩

/-- What a call brings to the snapshot is not the row, if no call in flight knows that. -/
theorem lost_advance_of_some {x : Option String} (hb : task.brings? p = some x) :
    Lost p (t.step (.advance k)) ↔
      t.session.connection.noted = t.session.current ∧ ¬Informed p t := by
  have known := agrees_advance (p := p) hk
  simp only [hb, Option.getD_some] at known
  constructor
  · rintro ⟨noted, unknown, uninformed⟩
    refine ⟨(t.noted_advance k).1 noted, fun informed => ?_⟩
    rcases informed.advance hk with informed | ⟨y, brings, holds⟩
    · exact uninformed informed
    · obtain rfl := Option.some.inj (hb.symm.trans brings)
      exact unknown (known.2 holds)
  · rintro ⟨noted, uninformed⟩
    refine ⟨(t.noted_advance k).2 noted, fun agrees => uninformed ?_,
      mt (informed_of_advance hk) uninformed⟩
    exact ⟨task, List.mem_of_getElem? hk, x, hb, known.1 agrees⟩

end Advance

/-- A step of a call makes a row lost if it is overtaken there. -/
theorem lost_advance (t : Concurrent) (p : Place) (k : Nat) :
    Lost p (t.step (.advance k)) ↔
      Overtaken p t (.advance k) ∨ Lost p t ∧ Unrepaired p t (.advance k) := by
  have unrepaired : Unrepaired p t (.advance k) := ⟨(t.advance_versions k).1, nofun⟩
  have stays : Lost p t ∧ Unrepaired p t (.advance k) ↔ Lost p t := and_iff_left unrepaired
  rw [stays]
  -- Only a call that exists and brings something to the place can be overtaken there.
  have overtaken : Overtaken p t (.advance k) → ∃ task x, t.tasks[k]? = some task ∧
      task.brings? p = some x ∧ t.session.connection.noted = t.session.current ∧
        ¬Informed p t := by
    rintro ⟨j, task, x, same, rest⟩
    cases same
    exact ⟨task, x, rest⟩
  cases hk : t.tasks[k]? with
  | none =>
    rw [step_advance_none hk]
    refine (or_iff_right fun h => ?_).symm
    obtain ⟨task, x, entry, -⟩ := overtaken h
    rw [hk] at entry
    cases entry
  | some task =>
    cases hb : task.brings? p with
    | none =>
      rw [lost_advance_of_none hk hb]
      refine (or_iff_right fun h => ?_).symm
      obtain ⟨other, x, entry, brings, -⟩ := overtaken h
      obtain rfl := Option.some.inj (hk.symm.trans entry)
      rw [hb] at brings
      cases brings
    | some x =>
      rw [lost_advance_of_some hk hb]
      constructor
      · rintro ⟨noted, uninformed⟩
        exact .inl ⟨k, task, x, rfl, hk, hb, noted, uninformed⟩
      · rintro (h | lost)
        · obtain ⟨-, -, -, -, rest⟩ := overtaken h
          exact rest
        · exact ⟨lost.noted, lost.uninformed⟩

/-- When another connection has committed, the next poll looks at all rows. -/
theorem Orderly.not_lost_of_commit {t : Concurrent} (h : t.Orderly) {e : Event}
    (later : (t.step e).session.current = t.session.current + 1)
    (noted : (t.step e).session.connection.noted = t.session.connection.noted) (p : Place) :
    Lost p (t.step e) ↔ Lost p t ∧ Unrepaired p t e := by
  have bound := h.coherent.noted_le
  constructor
  · intro lost
    have same := lost.noted
    omega
  · rintro ⟨-, quiet, -⟩
    have same : (t.step e).session.current = t.session.current := quiet
    omega

/-- A row is lost after an event if it was overtaken at it, or if it was lost and not repaired. -/
theorem Orderly.lost_step {t : Concurrent} (h : t.Orderly) (p : Place) (e : Event) :
    Lost p (t.step e) ↔ Overtaken p t e ∨ Lost p t ∧ Unrepaired p t e := by
  have other (advances : ∀ k, e ≠ .advance k)
      (lost : Lost p (t.step e) ↔ Lost p t ∧ Unrepaired p t e) :
      Lost p (t.step e) ↔ Overtaken p t e ∨ Lost p t ∧ Unrepaired p t e :=
    lost.trans (or_iff_right fun ⟨k, _, _, same, _⟩ => advances k same).symm
  cases e with
  | advance k => exact t.lost_advance p k
  | set q v => exact other nofun (t.lost_set p q v)
  | poll => exact other nofun (h.lost_poll p)
  | upsert row c =>
    have later : (t.step (.upsert row c)).session.current = t.session.current + 1 :=
      h.coherent.current_upsert row c
    exact other nofun (h.not_lost_of_commit later rfl p)
  | delete row =>
    refine other nofun ?_
    rcases h.coherent.delete_cases row with same | grown
    · have unchanged : t.step (.delete row) = t := congrArg (Concurrent.mk · t.tasks) same
      rw [Unrepaired, Quiet, unchanged]
      exact (and_iff_left ⟨rfl, nofun⟩).symm
    · have later : (t.step (.delete row)).session.current = t.session.current + 1 := grown
      exact h.not_lost_of_commit later rfl p

/-! ## Runs -/

/-- The version stays noted until another connection commits. -/
theorem Orderly.noted_step {t : Concurrent} (h : t.Orderly) {e : Event} (quiet : Quiet t e)
    (noted : t.session.connection.noted = t.session.current) :
    (t.step e).session.connection.noted = (t.step e).session.current := by
  have current : (t.step e).session.current = t.session.current := quiet
  cases e with
  | poll =>
    rcases h.poll_cases with ⟨-, same⟩ | ⟨stale, -⟩
    · rw [same]
      exact noted
    · exact absurd noted stale
  | advance k => rw [(t.advance_versions k).2, current, noted]
  | _ => exact noted.trans current.symm

theorem Orderly.noted_poll {t : Concurrent} (h : t.Orderly) :
    (t.step .poll).session.connection.noted = (t.step .poll).session.current := by
  rcases h.poll_cases with ⟨noted, same⟩ | ⟨-, entries, -, looked⟩
  · rw [same]
    exact noted
  · rw [looked]
    rfl

theorem Orderly.after {t : Concurrent} (h : t.Orderly) {es : List Event}
    (textual : ∀ e ∈ es, e.Textual) : (t.after es).Orderly := by
  induction es generalizing t with
  | nil => exact h
  | cons e es ih =>
    have later := fun f hf => textual f (List.mem_cons_of_mem e hf)
    exact ih (h.step (textual e List.mem_cons_self)) later

theorem Orderly.noted_after {t : Concurrent} (h : t.Orderly) {es : List Event}
    (textual : ∀ e ∈ es, e.Textual) (quiet : Run.Throughout Concurrent.step Quiet t es)
    (noted : t.session.connection.noted = t.session.current) :
    (t.after es).session.connection.noted = (t.after es).session.current := by
  induction es generalizing t with
  | nil => exact noted
  | cons e es ih =>
    have later := fun f hf => textual f (List.mem_cons_of_mem e hf)
    exact ih (h.step (textual e List.mem_cons_self)) later quiet.2 (h.noted_step quiet.1 noted)

/-- When all calls have returned and other connections have committed nothing since the last poll
began, a row is known unless at some step a call brought to the snapshot what it held of the place,
while no call in flight knew the row as it was, and since then no other connection has committed and
the place has not been written. -/
theorem agrees_iff {d : Database} {s : Session} (opened : Session.open? d = .ok s)
    {before rest : List Event} (textual : ∀ e ∈ before ++ .poll :: rest, e.Textual)
    (quiet : Run.Throughout step Quiet ((start s).after (before ++ [.poll])) rest) :
    let t := (start s).after (before ++ .poll :: rest)
    t.Idle → ∀ p, t.session.Agrees p ↔
      ¬Run.Since step (Overtaken p) (Unrepaired p) (start s) (before ++ .poll :: rest) := by
  intro t idle p
  have orderly₀ := orderly_start opened
  have noted : t.session.connection.noted = t.session.current := by
    have orderly := orderly₀.after fun e he => textual e (List.mem_append_left _ he)
    have later := fun e he => textual e (List.mem_append_right _ (List.mem_cons_of_mem _ he))
    have polled : (start s).after (before ++ [.poll]) = ((start s).after before).step .poll :=
      List.foldl_append
    have all : t = (((start s).after before).step .poll).after rest := List.foldl_append
    rw [polled] at quiet
    rw [all]
    exact (orderly.step (e := .poll) trivial).noted_after later quiet orderly.noted_poll
  have lost : Lost p t ↔ Run.Since step (Overtaken p) (Unrepaired p) (start s)
      (before ++ .poll :: rest) := by
    refine Run.iff_since Orderly (fun _ e => e.Textual) (fun t e ht he => ht.step he)
      (fun t e ht _ => ht.lost_step p e) orderly₀ ?_ (Run.throughout_of_mem textual _)
    exact fun lost => lost.unknown (Session.agrees_of_open? opened p)
  have uninformed : ¬Informed p t := by
    rintro ⟨task, member, x, brings, -⟩
    rw [idle task member] at brings
    cases brings
  rw [← lost]
  constructor
  · exact fun agrees lost => lost.unknown agrees
  · exact fun found => Classical.byContradiction fun unknown => found ⟨noted, unknown, uninformed⟩

/-- Between the steps of a poll that reads the rows of another commit, a whole write is made. The
snapshot loses the row that was written, and the poll that follows looks at nothing. -/
theorem exists_overtaken :
    ¬∀ (d : Database) (s : Session) (before rest : List Event), Session.open? d = .ok s →
      (∀ e ∈ before ++ .poll :: rest, e.Textual) →
      Run.Throughout step Quiet ((start s).after (before ++ [.poll])) rest →
      let t := (start s).after (before ++ .poll :: rest)
      t.Idle → ∀ p, t.session.Agrees p := by
  intro claim
  let s : Session := ⟨.empty, ⟨[], 0, 0, .empty⟩⟩
  let p : Place := ⟨.sync, "a"⟩
  let before : List Event := [.upsert ("sync", "b") (.text "1"), .poll,
    .set p (.bool true), .advance 1, .advance 1, .advance 0, .advance 0]
  have textual : ∀ e ∈ before ++ [.poll], e.Textual := by
    intro e he
    simp only [before, List.mem_append, List.mem_cons, List.not_mem_nil, or_false] at he
    rcases he with (rfl | rfl | rfl | rfl | rfl | rfl | rfl) | rfl <;> trivial
  have idle : ((start s).after (before ++ [.poll])).Idle := by
    unfold Idle
    decide +kernel
  have unknown : ¬((start s).after (before ++ [.poll])).session.Agrees p := by
    unfold Session.Agrees
    decide +kernel
  exact unknown (claim .empty s before [] rfl textual trivial idle p)

/-- The same calls, with the write after the poll has replaced the snapshot. -/
theorem agrees_iff_settled :
    let s : Session := ⟨.empty, ⟨[], 0, 0, .empty⟩⟩
    let before : List Event := [.upsert ("sync", "b") (.text "1")]
    let rest : List Event :=
      [.advance 0, .set ⟨.sync, "a"⟩ (.bool true), .advance 1, .advance 0, .advance 1]
    ∀ p, ((start s).after (before ++ .poll :: rest)).session.Agrees p ↔
      ¬Run.Since step (Overtaken p) (Unrepaired p) (start s) (before ++ .poll :: rest) := by
  intro s before rest
  have textual : ∀ e ∈ before ++ .poll :: rest, e.Textual := by
    intro e he
    simp only [before, rest, List.mem_append, List.mem_cons, List.not_mem_nil, or_false] at he
    rcases he with rfl | rfl | rfl | rfl | rfl | rfl | rfl <;> trivial
  have quiet : Run.Throughout step Quiet ((start s).after (before ++ [.poll])) rest :=
    ⟨rfl, rfl, rfl, rfl, rfl, trivial⟩
  have idle : ((start s).after (before ++ .poll :: rest)).Idle := by
    unfold Idle
    decide +kernel
  have opened : Session.open? .empty = .ok s := rfl
  exact agrees_iff opened textual quiet idle

end Concurrent

end Reroute
