import Reroute.Proofs.Storage.Faithful
import Reroute.Proofs.Storage.Fit
import Reroute.Proofs.Storage.Session

/-!
# A database that mirrors a memory

As long as nobody else commits and all values are fit, a connection shows what a memory shows: the
rows and the snapshot hold the texts of the values in the memory, and both feeds are equal.

## Main definitions

* `Feed.Holds` — what holds of all changes that wait.
* `Mirrors` — a connection and its database show what a memory shows.

## Main results

* `mirrors_open?` — a new connection to an empty database mirrors an empty memory.
* `Mirrors.get`, `Mirrors.set`, `Mirrors.poll` — reading, writing and polling.
-/

namespace Reroute

/-! ## Changes that wait -/

namespace Feed

/-- Something holds of all changes in all queues. -/
def Holds (p : Change → Prop) (f : Feed) : Prop := ∀ i q, f.queue? i = some q → ∀ c ∈ q, p c

variable {p : Change → Prop} {f : Feed}

theorem Holds.publish (h : f.Holds p) (sound : f.Sound) {c : Change} (hc : p c) :
    (f.publish c).Holds p := by
  intro i q hq d hd
  rw [sound.queue?_publish] at hq
  obtain ⟨old, queue, rfl⟩ := Option.map_eq_some_iff.1 hq
  rcases List.mem_append.1 hd with hd | hd
  · exact h i old queue d hd
  · exact List.mem_singleton.1 hd ▸ hc

theorem Holds.subscribe (h : f.Holds p) : f.subscribe.2.Holds p := by
  intro i q hq
  rw [queue?_subscribe] at hq
  split at hq
  · cases hq
    exact nofun
  · exact h i q hq

theorem Holds.leave (h : f.Holds p) (i : Nat) : (f.leave i).Holds p := by
  intro j q hq
  rw [queue?_leave] at hq
  split at hq
  · cases hq
  · exact h j q hq

theorem Holds.next (h : f.Holds p) (i : Nat) : (f.next i).2.Holds p := by
  intro j q hq c hc
  rw [queue?_next] at hq
  split at hq
  · obtain ⟨old, queue, rfl⟩ := Option.map_eq_some_iff.1 hq
    exact h i old queue c (List.mem_of_mem_tail hc)
  · exact h j q hq c hc

/-- A change that is taken has waited. -/
theorem Holds.of_next (h : f.Holds p) {i : Nat} {c : Change} (taken : (f.next i).1 = .change c) :
    p c := by
  obtain ⟨cs, queue⟩ := next_eq_change_iff.1 taken
  exact h i (c :: cs) queue c List.mem_cons_self

end Feed

/-! ## A memory and a connection -/

/-- A connection with its database shows what a memory shows. -/
structure Mirrors (m : Memory) (s : Session) : Prop where
  feed : s.connection.feed = m.feed
  rows : ∀ p, s.database.rows.get? (Database.rowOf p) = (m.get p).map fun v => .text v.print
  known : ∀ p, s.connection.snapshot.get? p = (m.get p).map Json.print
  noted : s.connection.noted = s.current
  fit : ∀ p v, m.get p = some v → v.Fit
  sound : m.feed.Sound
  waiting : m.feed.Holds fun c => ∀ v ∈ c.new, v.Fit

theorem mirrors_open? {s : Session} (h : Session.open? .empty = .ok s) :
    Mirrors .empty s := by
  cases h
  exact ⟨rfl, fun _ => rfl, fun _ => rfl, rfl, nofun, Feed.sound_empty, nofun⟩

namespace Mirrors

variable {m : Memory} {s : Session}

/-- Both read the same values. -/
theorem get (h : Mirrors m s) (p : Place) : s.get p = .ok (m.get p) := by
  have row := h.rows p
  unfold Session.get
  cases hv : m.get p with
  | none =>
    rw [hv] at row
    simp only [row, Option.map_none]
  | some v =>
    rw [hv] at row
    simp only [row, Option.map_some, (h.fit p v hv).plain.read?_print]

/-- Nothing is found by a poll. -/
theorem poll (h : Mirrors m s) : s.poll = (.ok 0, s) := by
  rcases s.poll_cases with ⟨-, same⟩ | ⟨other, -⟩ | ⟨other, -⟩
  · exact same
  · exact absurd h.noted other
  · exact absurd h.noted other

/-- Both announce a write, or both do not. -/
theorem feed_set (h : Mirrors m s) (p : Place) {v : Json} (hv : v.Fit) :
    (s.set p v).connection.feed = (m.set p v).feed := by
  have feed := Session.step_feed s (.set p v)
  simp only [Session.step, Session.announced, h.known] at feed
  rw [feed, h.feed]
  change _ = if (m.get p).any (·.same v) then m.feed else m.feed.publish ⟨p, m.get p, some v⟩
  cases old : m.get p with
  | none =>
    have unknown : s.view p = none := by simp [Session.view, View.ofTexts, h.known, old]
    simp [unknown, Feed.publishAll]
  | some w =>
    have hw := h.fit p w old
    have known : s.view p = some w := by
      simp [Session.view, View.ofTexts, h.known, old, hw.plain.read?_print]
    by_cases same : w = v
    · simp [same, Feed.publishAll]
    · have texts : w.print ≠ v.print := mt (hw.plain.print_inj hv.plain).1 same
      have values : w.same v = false := by
        rw [← Bool.not_eq_true, hw.plain.same_iff hv.plain]
        exact same
      simp [known, texts, values, Feed.publishAll]

/-- Both keep a fit value, and announce it alike. -/
theorem set (h : Mirrors m s) (p : Place) {v : Json} (hv : v.Fit) :
    Mirrors (m.set p v) (s.set p v) := by
  have publish : (m.set p v).feed = m.feed ∨
      (m.set p v).feed = m.feed.publish ⟨p, m.get p, some v⟩ := by
    change (if _ then m.feed else _) = _ ∨ (if _ then m.feed else _) = _
    split
    · exact .inl rfl
    · exact .inr rfl
  refine ⟨h.feed_set p hv, fun q => ?_, fun q => ?_, ?_, fun q w hw => ?_, ?_, ?_⟩
  · rw [Session.get?_set, Memory.get_set, h.rows]
    split <;> rfl
  · rw [Session.set_eq, Memory.get_set]
    change Table.get? (Table.put _ _ _) _ = _
    rw [Table.get?_put, h.known]
    split <;> rfl
  · rw [Session.noted_set, Session.current_set, h.noted]
  · rw [Memory.get_set] at hw
    split at hw
    · cases hw
      exact hv
    · exact h.fit q w hw
  · rcases publish with same | told
    · exact same ▸ h.sound
    · exact told ▸ h.sound.publish _
  · have new : ∀ w ∈ (⟨p, m.get p, some v⟩ : Change).new, w.Fit := by
      intro w hw
      cases hw
      exact hv
    rcases publish with same | told
    · exact same ▸ h.waiting
    · exact told ▸ h.waiting.publish h.sound new

/-- Listeners may come and go, and take their changes. -/
theorem withFeed (h : Mirrors m s) {feed : Feed} (sound : feed.Sound)
    (waiting : feed.Holds fun c => ∀ v ∈ c.new, v.Fit) :
    Mirrors { m with feed } (s.withFeed feed) :=
  ⟨rfl, h.rows, h.known, h.noted, h.fit, sound, waiting⟩

end Mirrors

end Reroute
