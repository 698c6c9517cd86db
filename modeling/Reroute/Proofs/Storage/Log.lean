import Reroute.Proofs.Storage.Session

/-!
# The changes of a database are an exact log

As long as all rows hold texts, whoever subscribes hears a log of everything that happens: replayed
from the values at subscription it gives the values of the snapshot, and after every poll these are
the values of the rows.

## Main definitions

* `Session.subscribe` — someone starts to listen, `Session.Heard` — what a listener has heard is a
  log.
* `Session.Caught` — a poll announces exactly what differs.

## Main results

* `Session.Coherent.heard` — whoever listens hears a log.
* `Session.Coherent.caught` — a poll announces exactly what differs.
* `Session.log_of_open?` — both, along every run of a connection that was opened.
-/

namespace Reroute.Session

/-- Someone starts to listen. -/
def subscribe (s : Session) : Nat × Session :=
  (s.connection.feed.subscribe.1, s.withFeed s.connection.feed.subscribe.2)

/-- What a listener has heard between two sessions leads from the values of the one to those of the
other, and tells the old values. -/
structure Heard (s t : Session) (i : Nat) (log : List Change) : Prop where
  queue : t.connection.feed.queue? i = some log
  replay : s.view.replay log = t.view
  exact : s.view.Exact log

/-- A poll announces one change for each place that is not known, and then all are known. -/
structure Caught (s : Session) (cs : List Change) : Prop where
  count : s.poll.1 = .ok cs.length
  feed : s.poll.2.connection.feed = s.connection.feed.publishAll cs
  nodup : (cs.map Change.place).Nodup
  mem_places : ∀ p, p ∈ cs.map Change.place ↔ ¬s.Agrees p
  agrees : ∀ p, s.poll.2.Agrees p

/-! ## Listening -/

theorem Coherent.subscribe {s : Session} (h : s.Coherent) : s.subscribe.2.Coherent :=
  h.withFeed h.sound.subscribe

theorem queue?_subscribe (s : Session) :
    s.subscribe.2.connection.feed.queue? s.subscribe.1 = some [] := by
  change s.connection.feed.subscribe.2.queue? s.connection.feed.subscribe.1 = some []
  rw [Feed.queue?_subscribe, if_pos rfl]

theorem Coherent.queue?_step {s : Session} (h : s.Coherent) (e : Event) {i : Nat}
    {q : List Change} (hq : s.connection.feed.queue? i = some q) :
    (s.step e).connection.feed.queue? i = some (q ++ s.announced e) := by
  rw [step_feed, h.sound.queue?_publishAll, hq]
  rfl

theorem Coherent.heard_step {s t : Session} {i : Nat} {log : List Change} (ht : t.Coherent)
    (h : Heard s t i log) {e : Event} (legible : e.Legible) :
    Heard s (t.step e) i (log ++ t.announced e) := by
  refine ⟨ht.queue?_step e h.queue, ?_, ?_⟩
  · rw [View.replay_append, h.replay, ht.replay_announced legible]
  · rw [View.exact_append, h.replay]
    exact ⟨h.exact, ht.exact_announced e⟩

/-- Whoever listens hears a log of all events. -/
theorem Coherent.heard {s t : Session} {i : Nat} {log : List Change} (ht : t.Coherent)
    (h : Heard s t i log) {es : List Event} (legible : ∀ e ∈ es, e.Legible) :
    ∃ more, Heard s (t.after es) i (log ++ more) := by
  induction es generalizing t log with
  | nil => exact ⟨[], by rwa [List.append_nil]⟩
  | cons e es ih =>
    have next := ht.heard_step h (legible e List.mem_cons_self)
    obtain ⟨more, hm⟩ := ih (ht.step e) next fun f hf => legible f (List.mem_cons_of_mem e hf)
    exact ⟨t.announced e ++ more, by rwa [← List.append_assoc]⟩

/-! ## Polling rows of texts -/

/-- No row of something else than a text is committed. -/
def Event.Textual : Event → Prop
  | .upsert _ (.blob _) => False
  | _ => True

theorem allText_of_open? {d : Database} {s : Session} (h : open? d = .ok s) :
    s.database.AllText := by
  unfold open? at h
  split at h
  · rename_i entries he
    cases h
    exact (Database.entries?_isOk d).1 ⟨entries, he⟩
  · cases h

theorem allText_step {s : Session} (h : s.database.AllText) {e : Event} (he : e.Textual) :
    (s.step e).database.AllText := by
  cases e with
  | set p v =>
    change (s.set p v).database.AllText
    rw [set_eq]
    exact h.upsert _ _
  | upsert row c =>
    cases c with
    | text t => exact h.upsert row t
    | blob bytes => exact he.elim
  | delete row => exact h.delete row
  | poll =>
    change s.poll.2.database.AllText
    rcases s.poll_cases with ⟨-, hp⟩ | ⟨-, _, -, hp⟩ | ⟨-, _, -, hp⟩ <;> rw [hp] <;> exact h

/-- Nothing is unknown as long as others have committed nothing since the version was noted. -/
def UpToDate (s : Session) : Prop :=
  s.connection.noted = s.current → ∀ p, s.Agrees p

theorem Coherent.upToDate_step {s : Session} (h : s.Coherent) (text : s.database.AllText)
    (known : s.UpToDate) (e : Event) : (s.step e).UpToDate := by
  intro noted p
  cases e with
  | set q v =>
    change (s.set q v).connection.noted = (s.set q v).current at noted
    rw [current_set, noted_set] at noted
    exact (agrees_set s q p v).2 (.inr (known noted p))
  | upsert row c =>
    rw [h.current_upsert] at noted
    have : s.connection.noted ≤ s.current := h.noted_le
    change s.connection.noted = _ at noted
    omega
  | delete row =>
    rcases h.delete_cases row with same | later
    · rw [same] at noted ⊢
      exact known noted p
    · rw [later] at noted
      have : s.connection.noted ≤ s.current := h.noted_le
      change s.connection.noted = _ at noted
      omega
  | poll =>
    change s.poll.2.Agrees p
    obtain ⟨entries, he⟩ := (Database.entries?_isOk _).2 text
    rcases s.poll_cases with ⟨hn, hp⟩ | ⟨-, _, he', -⟩ | ⟨-, _, he', hp⟩
    · rw [hp]
      exact known hn p
    · rw [he] at he'
      cases he'
    · rw [hp]
      exact agrees_of_entries he' p

/-- A poll that reads the rows announces exactly what differs. -/
theorem Coherent.caught_of_entries {s : Session} (h : s.Coherent) {entries : Table Place String}
    (noted : s.connection.noted ≠ s.current) (he : s.database.entries? = .ok entries) :
    s.Caught (s.announced .poll) := by
  have announced : s.announced .poll = Connection.diff s.connection.snapshot entries := by
    simp only [Session.announced, if_neg noted, he]
  have between := Connection.diff_between h.keyed (Database.keyed_entries he)
  rcases s.poll_cases with ⟨hn, -⟩ | ⟨-, _, he', -⟩ | ⟨-, _, he', hp⟩
  · exact absurd hn noted
  · rw [he] at he'
    cases he'
  · obtain rfl := Except.ok.inj (he.symm.trans he')
    rw [announced]
    refine ⟨by rw [hp], by rw [hp], between.nodup, fun p => ?_, fun p => ?_⟩
    · rw [not_agrees_iff he, between.mem_places]
    · rw [hp]
      exact agrees_of_entries he p

/-- A poll that finds the version it knows is right to announce nothing if all rows are known. -/
theorem caught_of_noted {s : Session} (noted : s.connection.noted = s.current)
    (known : ∀ p, s.Agrees p) : s.Caught (s.announced .poll) := by
  rw [announced, if_pos noted]
  rcases s.poll_cases with ⟨-, hp⟩ | ⟨hn, -⟩ | ⟨hn, -⟩
  · refine ⟨by rw [hp]; rfl, by rw [hp]; rfl, List.nodup_nil, fun p => ?_, by rwa [hp]⟩
    simp [known p]
  · exact absurd noted hn
  · exact absurd noted hn

theorem Coherent.caught {s : Session} (h : s.Coherent) (text : s.database.AllText)
    (known : s.UpToDate) : s.Caught (s.announced .poll) := by
  by_cases noted : s.connection.noted = s.current
  · exact caught_of_noted noted (known noted)
  · obtain ⟨entries, he⟩ := (Database.entries?_isOk _).2 text
    exact h.caught_of_entries noted he

/-! ## Runs -/

theorem Coherent.upToDate_after {s : Session} (h : s.Coherent) (text : s.database.AllText)
    (known : s.UpToDate) {es : List Event} (textual : ∀ e ∈ es, e.Textual) :
    (s.after es).database.AllText ∧ (s.after es).UpToDate := by
  induction es generalizing s with
  | nil => exact ⟨text, known⟩
  | cons e es ih =>
    refine ih (h.step e) (allText_step text (textual e List.mem_cons_self))
      (h.upToDate_step text known e) fun f hf => textual f (List.mem_cons_of_mem e hf)

/-- A database of texts can be opened, and then the changes that are announced are an exact log:
whoever subscribes after some events hears a log of the events from there on, and a poll after these
announces exactly what is not known yet. -/
theorem log_of_open? {d : Database} (text : d.AllText) :
    ∃ s, open? d = .ok s ∧ (∀ p, s.Agrees p) ∧
      ∀ before after : List Event, (∀ e ∈ before ++ after, e.Textual ∧ e.Legible) →
        let i := (s.after before).subscribe.1
        let s₁ := (s.after before).subscribe.2
        let s₂ := s₁.after after
        ∃ log cs, Heard s₁ s₂ i log ∧ s₂.Caught cs ∧ Heard s₁ s₂.poll.2 i (log ++ cs) := by
  obtain ⟨entries, he⟩ := (Database.entries?_isOk d).2 text
  obtain ⟨s, hs⟩ : ∃ s, open? d = .ok s := ⟨_, by rw [open?, he]⟩
  have database : s.database = d := by
    rw [open?, he] at hs
    cases hs
    rfl
  refine ⟨s, hs, agrees_of_open? hs, ?_⟩
  intro before after events i s₁ s₂
  have textual : ∀ e ∈ before ++ after, e.Textual := fun e h => (events e h).1
  have legible : ∀ e ∈ after, e.Legible := fun e h => (events e (List.mem_append_right _ h)).2
  have coherent₀ : (s.after before).Coherent := (coherent_of_open? hs).after before
  obtain ⟨text₀, known₀⟩ := (coherent_of_open? hs).upToDate_after (database ▸ text)
    (fun _ => agrees_of_open? hs) fun e h => textual e (List.mem_append_left after h)
  have coherent₁ : s₁.Coherent := coherent₀.subscribe
  have coherent₂ : s₂.Coherent := coherent₁.after after
  have textual₁ : ∀ e ∈ after, e.Textual := fun e h => textual e (List.mem_append_right before h)
  obtain ⟨text₂, known₂⟩ := coherent₁.upToDate_after text₀ known₀ textual₁
  have start : Heard s₁ s₁ i [] := ⟨queue?_subscribe _, rfl, trivial⟩
  obtain ⟨log, heard⟩ := coherent₁.heard start legible
  exact ⟨log, s₂.announced .poll, heard, coherent₂.caught text₂ known₂,
    coherent₂.heard_step heard (e := .poll) trivial⟩

/-- A text that is no JSON is committed and overwritten before a poll, and a row is taken out. -/
theorem log_of_open?_overwritten :
    let d := Database.empty.upsert ("sync", "a") (.text "1")
    let before : List Event := [.upsert ("sync", "b") (.text "?")]
    let after : List Event :=
      [.set ⟨.sync, "b"⟩ (.bool true), .poll, .delete ("sync", "a"), .upsert ("x", "a") (.text "")]
    ∃ s, open? d = .ok s ∧
      let i := (s.after before).subscribe.1
      let s₁ := (s.after before).subscribe.2
      let s₂ := s₁.after after
      ∃ log cs, Heard s₁ s₂ i log ∧ s₂.Caught cs ∧ Heard s₁ s₂.poll.2 i (log ++ cs) := by
  intro d before after
  have text : d.AllText := by
    intro r hr
    obtain rfl := List.mem_singleton.1 hr
    exact ⟨"1", rfl⟩
  obtain ⟨s, hs, -, log⟩ := log_of_open? text
  refine ⟨s, hs, log before after fun e he => ?_⟩
  simp only [before, after, List.cons_append, List.nil_append, List.mem_cons, List.not_mem_nil,
    or_false] at he
  rcases he with rfl | rfl | rfl | rfl | rfl
  · exact ⟨trivial, trivial⟩
  · exact ⟨trivial, by change Json.read? _ = _; decide +kernel⟩
  · exact ⟨trivial, trivial⟩
  · exact ⟨trivial, trivial⟩
  · exact ⟨trivial, trivial⟩

end Reroute.Session
