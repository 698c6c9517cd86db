import Reroute.Proofs.Store.System

/-!
# What waits for a listener

The changes that wait for a listener end with what the connection knows: once they are delivered,
the listener has the values of the snapshot at all places that they concern.

## Main definitions

* `Session.Tells` — the changes that wait end with what is known.
* `Stale` — the copy of a store is not what the connection knows, and no change waits that would
  renew it.

## Main results

* `Session.Tells.step`, `Session.Tells.next` — the changes that wait always do so.
* `Session.Moves.stale_iff` — an event leaves a copy stale unless it announces a change of it.
-/

namespace Reroute

/-! ## What is stored and what is known -/

namespace Topic

/-- The value that the connection knows. -/
def known (s : Session) (links : Links) (τ : Topic) : Json :=
  (s.view (τ.place links)).getD .null

/-- What would be loaded is what the connection knows, if it knows the row. -/
theorem stored_eq_known {s : Session} {links : Links} (h : links.Sound) {τ : Topic}
    (agrees : s.Agrees (τ.place links)) : τ.stored s links = τ.known s links := by
  have row : s.database.rows.get? (Database.rowOf (τ.place links)) =
    (s.connection.snapshot.get? (τ.place links)).map .text := agrees
  have read : (τ.link links).read s τ.key = s.get (τ.place links) := by
    unfold Link.read
    rw [link_sound h]
    rfl
  unfold stored Opened.readOrNull known Session.view View.ofTexts
  rw [read, Session.get, row]
  cases s.connection.snapshot.get? (τ.place links) with
  | none => rfl
  | some text =>
    simp only [Option.map_some, Option.bind_some]
    cases Json.read? text <;> rfl

end Topic

namespace Session

/-! ## Changes that wait -/

/-- The changes that wait for a listener. -/
def waiting (s : Session) (i : Nat) : List Change := (s.connection.feed.queue? i).getD []

/-- No change of a place waits for a listener. -/
def Silent (s : Session) (i : Nat) (p : Place) : Prop := p ∉ (s.waiting i).map Change.place

/-- Someone listens, and the changes that wait end with what the connection knows. -/
structure Tells (s : Session) (i : Nat) : Prop where
  listens : s.connection.feed.queue? i = some (s.waiting i)
  ends : ∀ (w : View) (p : Place), p ∈ (s.waiting i).map Change.place →
    w.replay (s.waiting i) p = s.view p

theorem waiting_eq {s : Session} {i : Nat} {q : List Change}
    (h : s.connection.feed.queue? i = some q) : s.waiting i = q := by
  rw [waiting, h]
  rfl

/-- A new listener has nothing to take. -/
theorem waiting_subscribe (s : Session) : s.subscribe.2.waiting s.subscribe.1 = [] :=
  waiting_eq (queue?_subscribe s)

theorem tells_subscribe (s : Session) : s.subscribe.2.Tells s.subscribe.1 := by
  refine ⟨by rw [waiting_subscribe, queue?_subscribe], fun w p h => ?_⟩
  rw [waiting_subscribe] at h
  cases h

theorem queue?_subscribe_other {s : Session} {i : Nat} {q : List Change}
    (h : s.connection.feed.queue? i = some q) :
    i ≠ s.subscribe.1 ∧
      s.subscribe.2.connection.feed.queue? i = s.connection.feed.queue? i:=
  Feed.queue?_subscribe_other h

theorem waiting_step {s : Session} (hs : s.Coherent) {i : Nat} (h : s.Tells i) (e : Event) :
    (s.step e).connection.feed.queue? i = some (s.waiting i ++ s.announced e) :=
  hs.queue?_step e h.listens

/-- A place of which nothing is announced is known as before. -/
theorem view_step {s : Session} (hs : s.Coherent) {e : Event} (he : e.Legible) {p : Place}
    (h : p ∉ (s.announced e).map Change.place) : (s.step e).view p = s.view p := by
  rw [← hs.replay_announced he, View.replay_of_notMem _ h]

/-- What is announced goes to the end of what waits. -/
theorem Tells.step {s : Session} (hs : s.Coherent) {i : Nat} (h : s.Tells i) {e : Event}
    (he : e.Legible) : (s.step e).Tells i := by
  have queue := waiting_step hs h e
  have waiting : (s.step e).waiting i = s.waiting i ++ s.announced e := waiting_eq queue
  refine ⟨waiting ▸ queue, fun w p hp => ?_⟩
  rw [waiting] at hp ⊢
  rw [View.replay_append]
  by_cases announced : p ∈ (s.announced e).map Change.place
  · rw [View.replay_eq_of_mem _ s.view announced, hs.replay_announced he]
  · rw [List.map_append, List.mem_append] at hp
    rw [View.replay_of_notMem _ announced, h.ends w p (hp.resolve_right announced),
      view_step hs he announced]

/-- The first change that waits is the last one of its place only if it tells what is known. -/
theorem Tells.next {s : Session} {i : Nat} (h : s.Tells i) {c : Change} {cs : List Change}
    (waiting : s.waiting i = c :: cs) :
    (s.withFeed (s.connection.feed.next i).2).Tells i ∧
      (s.withFeed (s.connection.feed.next i).2).waiting i = cs ∧
      (c.place ∉ cs.map Change.place → c.new = s.view c.place) := by
  have queue : (s.connection.feed.next i).2.queue? i = some cs := by
    rw [Feed.queue?_next, if_pos rfl, h.listens, waiting]
    rfl
  have left : (s.withFeed (s.connection.feed.next i).2).waiting i = cs := waiting_eq queue
  refine ⟨⟨left ▸ queue, fun w p hp => ?_⟩, left, fun last => ?_⟩
  · rw [left] at hp ⊢
    have all : p ∈ (s.waiting i).map Change.place := by
      rw [waiting]
      exact List.mem_cons_of_mem _ hp
    have ends := h.ends w p all
    rw [waiting] at ends
    exact (View.replay_eq_of_mem w (w.apply c) hp).trans ends
  · have ends := h.ends (fun _ => none) c.place (waiting ▸ List.mem_cons_self)
    rw [waiting] at ends
    rw [← ends]
    exact ((View.replay_of_notMem (View.apply (fun _ => none) c) last).trans (if_pos rfl)).symm

theorem queue?_next_other (s : Session) {i j : Nat} (h : j ≠ i) :
    (s.withFeed (s.connection.feed.next i).2).connection.feed.queue? j =
      s.connection.feed.queue? j := by
  change (s.connection.feed.next i).2.queue? j = _
  rw [Feed.queue?_next, if_neg h]

/-- What waits for a listener depends on its queue and the snapshot only. -/
theorem Tells.congr {s t : Session} {i : Nat} (h : s.Tells i) (view : t.view = s.view)
    (queue : t.connection.feed.queue? i = s.connection.feed.queue? i) : t.Tells i := by
  have waiting : t.waiting i = s.waiting i := by rw [Session.waiting, queue, Session.waiting]
  refine ⟨by rw [queue, waiting, h.listens], fun w p hp => ?_⟩
  rw [waiting] at hp ⊢
  rw [view, h.ends w p hp]

/-! ## Sessions whose rows hold texts -/

/-- All rows hold texts, and they are known unless others have committed. -/
structure Healthy (s : Session) : Prop where
  coherent : s.Coherent
  text : s.database.AllText
  upToDate : s.UpToDate

theorem healthy_of_open? {d : Database} {s : Session} (h : open? d = .ok s) : s.Healthy :=
  ⟨coherent_of_open? h, allText_of_open? h, fun _ => agrees_of_open? h⟩

theorem Healthy.step {s : Session} (h : s.Healthy) {e : Event} (he : e.Textual) :
    (s.step e).Healthy :=
  ⟨h.coherent.step e, allText_step h.text he, h.coherent.upToDate_step h.text h.upToDate e⟩

theorem Healthy.withFeed {s : Session} (h : s.Healthy) {feed : Feed} (sound : feed.Sound) :
    (s.withFeed feed).Healthy :=
  ⟨h.coherent.withFeed sound, h.text, h.upToDate⟩

/-- Nothing happens, or something that leaves all rows texts and that can be read back. -/
def Moves (s t : Session) : Prop := t = s ∨ ∃ e : Event, e.Textual ∧ e.Legible ∧ t = s.step e

/-- Nothing happens, or a value is written that is read back. -/
def Writes (s t : Session) : Prop :=
  t = s ∨ ∃ p v, Json.read? v.print = some v ∧ t = s.set p v

theorem Writes.moves {s t : Session} (w : s.Writes t) : s.Moves t := by
  rcases w with rfl | ⟨p, v, legible, rfl⟩
  · exact .inl rfl
  · exact .inr ⟨.set p v, trivial, legible, rfl⟩

theorem Writes.noted {s t : Session} (w : s.Writes t) (h : s.connection.noted = s.current) :
    t.connection.noted = t.current := by
  rcases w with rfl | ⟨p, v, -, rfl⟩
  · exact h
  · rw [noted_set, current_set, h]

theorem noted_poll (s : Session) : s.poll.2.connection.noted = s.poll.2.current := by
  rcases s.poll_cases with ⟨noted, hp⟩ | ⟨-, _, -, hp⟩ | ⟨-, _, -, hp⟩
  · rw [hp]
    exact noted
  · rw [hp]
    rfl
  · rw [hp]
    rfl

/-- The snapshot is incomplete after an event only if others committed at it, or if it was before
and was not polled. -/
theorem Healthy.committed_or_missed {s : Session} (h : s.Healthy) {e : Event}
    (missed : ¬∀ p, (s.step e).Agrees p) :
    (s.step e).current ≠ s.current ∨ (¬∀ p, s.Agrees p) ∧ e ≠ .poll := by
  cases e with
  | set p v => exact .inr ⟨fun all => missed fun q => (s.agrees_set p q v).2 (.inr (all q)), nofun⟩
  | upsert row c =>
    rw [h.coherent.current_upsert]
    exact .inl (Nat.succ_ne_self _)
  | delete row =>
    rcases h.coherent.delete_cases row with same | grown
    · exact .inr ⟨same ▸ missed, nofun⟩
    · rw [grown]
      exact .inl (Nat.succ_ne_self _)
  | poll =>
    have healthy : s.poll.2.Healthy := h.step (e := .poll) trivial
    exact absurd (healthy.upToDate s.noted_poll) missed

theorem Moves.healthy {s t : Session} (m : s.Moves t) (h : s.Healthy) : t.Healthy := by
  rcases m with rfl | ⟨e, he, -, rfl⟩
  · exact h
  · exact h.step he

theorem Moves.tells {s t : Session} (m : s.Moves t) (hs : s.Healthy) {i : Nat} (h : s.Tells i) :
    t.Tells i := by
  rcases m with rfl | ⟨e, -, he, rfl⟩
  · exact h
  · exact h.step hs.coherent he

end Session

/-! ## Stale copies -/

/-- The copy of a store is not what the connection knows, and no change waits that renews it. -/
structure Stale (t : Session) (s : Store) (i : Nat) (τ : Topic) : Prop where
  silent : t.Silent i (τ.place s.links)
  differs : τ.part s ≠ τ.normalize (τ.known t s.links)

/-- Only the links and the copy of a store matter. -/
theorem stale_congr {t : Session} {s s' : Store} {i : Nat} {τ : Topic} (links : s'.links = s.links)
    (part : τ.part s' = τ.part s) : Stale t s' i τ ↔ Stale t s i τ := by
  constructor <;> rintro ⟨silent, differs⟩ <;> refine ⟨?_, ?_⟩
  · exact links ▸ silent
  · exact part ▸ links ▸ differs
  · exact links ▸ silent
  · exact part ▸ links ▸ differs

theorem Session.silent_congr {t u : Session} {i : Nat}
    (queue : u.connection.feed.queue? i = t.connection.feed.queue? i) (p : Place) :
    u.Silent i p ↔ t.Silent i p := by
  rw [Silent, Silent, waiting, waiting, queue]

/-- Only what is known of the copy and whether a change of it waits matter of a session. -/
theorem stale_of_silent_iff {t u : Session} {s : Store} {i : Nat} {τ : Topic}
    (known : τ.known u s.links = τ.known t s.links)
    (silent : u.Silent i (τ.place s.links) ↔ t.Silent i (τ.place s.links)) :
    Stale u s i τ ↔ Stale t s i τ ∧ u.Silent i (τ.place s.links) := by
  constructor
  · rintro ⟨quiet, differs⟩
    exact ⟨⟨silent.1 quiet, known ▸ differs⟩, quiet⟩
  · rintro ⟨⟨-, differs⟩, quiet⟩
    exact ⟨quiet, known.symm ▸ differs⟩

/-- A copy stays stale exactly if no change of it comes to wait. -/
theorem Session.Moves.stale_iff {t t' : Session} (m : t.Moves t') (ht : t.Healthy) {i : Nat}
    (h : t.Tells i) (s : Store) (τ : Topic) :
    Stale t' s i τ ↔ Stale t s i τ ∧ t'.Silent i (τ.place s.links) := by
  rcases m with rfl | ⟨e, -, he, rfl⟩
  · exact stale_of_silent_iff rfl Iff.rfl
  · have waiting : (t.step e).waiting i = t.waiting i ++ t.announced e :=
      waiting_eq (waiting_step ht.coherent h e)
    have silent : (t.step e).Silent i (τ.place s.links) ↔ t.Silent i (τ.place s.links) ∧
        τ.place s.links ∉ (t.announced e).map Change.place := by
      unfold Silent
      rw [waiting, List.map_append, List.mem_append, not_or]
    have known : τ.place s.links ∉ (t.announced e).map Change.place →
        τ.known (t.step e) s.links = τ.known t s.links := by
      intro quiet
      unfold Topic.known
      rw [view_step ht.coherent he quiet]
    constructor
    · rintro ⟨later, differs⟩
      obtain ⟨before, quiet⟩ := silent.1 later
      exact ⟨⟨before, known quiet ▸ differs⟩, later⟩
    · rintro ⟨⟨before, differs⟩, later⟩
      obtain ⟨-, quiet⟩ := silent.1 later
      exact ⟨later, (known quiet).symm ▸ differs⟩

end Reroute
