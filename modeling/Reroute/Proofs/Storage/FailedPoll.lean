import Reroute.Proofs.Run
import Reroute.Proofs.Storage.Log

/-!
# Polls after a failed poll

A poll that fails has noted the version already, so that the next one finds nothing to do. Changes
that were to be announced by the failed poll stay unknown until another connection commits again, or
their place is written.

## Main definitions

* `Session.Missed` — a poll fails while a row is not known, `Session.Unnoticed` — an event after
  which the row is as unknown as before, and no poll will look at it.
* `Session.Lost` — a row that is not known, and that the next poll will not look at.

## Main results

* `Session.Coherent.lost_step` — how an event makes a row lost.
* `Session.poll_of_open?` — what a failed poll changes, and which polls announce too little.
* `Session.exists_lost_change` — a poll that announces too little.
-/

namespace Reroute.Session

/-- A poll fails while the row of a place is not known. -/
def Missed (p : Place) (s : Session) (e : Event) : Prop :=
  e = .poll ∧ (∃ err, s.poll.1 = .error err) ∧ ¬s.Agrees p

/-- No other connection commits, and the place is not written. -/
def Unnoticed (p : Place) (s : Session) (e : Event) : Prop :=
  (s.step e).current = s.current ∧ ∀ v, e ≠ .set p v

/-- The row of a place is not known, and the version of the rows is. -/
def Lost (p : Place) (s : Session) : Prop := s.connection.noted = s.current ∧ ¬s.Agrees p

/-- A commit of another connection makes the next poll read the rows. -/
theorem Coherent.not_lost_of_commit {s : Session} (h : s.Coherent) {e : Event}
    (later : (s.step e).current = s.current + 1)
    (noted : (s.step e).connection.noted = s.connection.noted) (p : Place) :
    Lost p (s.step e) ↔ Missed p s e ∨ Lost p s ∧ Unnoticed p s e := by
  have bound := h.noted_le
  constructor
  · rintro ⟨same, -⟩
    omega
  · rintro (⟨rfl, -, -⟩ | ⟨-, same, -⟩)
    · have : (s.step .poll).current = s.current := current_poll s
      omega
    · omega

/-- A row is lost after an event if a poll missed it, or if it was lost and went unnoticed. -/
theorem Coherent.lost_step {s : Session} (h : s.Coherent) (p : Place) (e : Event) :
    Lost p (s.step e) ↔ Missed p s e ∨ Lost p s ∧ Unnoticed p s e := by
  cases e with
  | set q v =>
    have current : (s.step (.set q v)).current = s.current := current_set s q v
    have noted : (s.step (.set q v)).connection.noted = s.connection.noted := noted_set s q v
    have agrees : (s.step (.set q v)).Agrees p ↔ p = q ∨ s.Agrees p := agrees_set s q p v
    unfold Lost Missed Unnoticed
    rw [current, noted, agrees]
    constructor
    · rintro ⟨same, unknown⟩
      obtain ⟨other, unknown⟩ := not_or.1 unknown
      refine .inr ⟨⟨same, unknown⟩, rfl, ?_⟩
      rintro w ⟨⟩
      exact other rfl
    · rintro (⟨⟨⟩, -⟩ | ⟨⟨same, unknown⟩, -, other⟩)
      refine ⟨same, not_or.2 ⟨?_, unknown⟩⟩
      rintro rfl
      exact other v rfl
  | upsert row c => exact h.not_lost_of_commit (h.current_upsert row c) rfl p
  | delete row =>
    rcases h.delete_cases row with same | later
    · unfold Lost Missed Unnoticed
      rw [same]
      simp
    · exact h.not_lost_of_commit later rfl p
  | poll =>
    have current : (s.step .poll).current = s.current := current_poll s
    have unnoticed : Unnoticed p s .poll := ⟨current, nofun⟩
    rcases s.poll_cases with ⟨noted, hp⟩ | ⟨noted, err, -, hp⟩ | ⟨noted, entries, he, hp⟩
    · have same : s.step .poll = s := congrArg Prod.snd hp
      rw [same]
      constructor
      · intro lost
        exact .inr ⟨lost, unnoticed⟩
      · rintro (⟨-, ⟨err, failed⟩, -⟩ | ⟨lost, -⟩)
        · rw [hp] at failed
          cases failed
        · exact lost
    · have failed : s.poll.1 = .error err := congrArg Prod.fst hp
      have left : s.step .poll =
          { s with connection := { s.connection with noted := s.current } } :=
        congrArg Prod.snd hp
      rw [left]
      constructor
      · rintro ⟨-, unknown⟩
        exact .inl ⟨rfl, ⟨err, failed⟩, unknown⟩
      · rintro (⟨-, -, unknown⟩ | ⟨⟨same, -⟩, -⟩)
        · exact ⟨rfl, unknown⟩
        · exact absurd same noted
    · have known : (s.step .poll).Agrees p := by
        change s.poll.2.Agrees p
        rw [hp]
        exact agrees_of_entries he p
      constructor
      · rintro ⟨-, unknown⟩
        exact absurd known unknown
      · rintro (⟨-, ⟨err, failed⟩, -⟩ | ⟨⟨same, -⟩, -⟩)
        · rw [hp] at failed
          cases failed
        · exact absurd same noted

/-- A poll that succeeds announces exactly what is not known, unless a row is lost. -/
theorem Coherent.caught_iff {s : Session} (h : s.Coherent) {n : Nat} (ok : s.poll.1 = .ok n) :
    (∃ cs, s.Caught cs) ↔ ¬∃ p, Lost p s := by
  rcases s.poll_cases with ⟨noted, hp⟩ | ⟨noted, err, -, hp⟩ | ⟨noted, entries, he, -⟩
  · constructor
    · rintro ⟨cs, caught⟩ ⟨p, -, unknown⟩
      have known := caught.agrees p
      rw [hp] at known
      exact unknown known
    · intro none
      have known : ∀ p, s.Agrees p :=
        fun p => Classical.byContradiction fun unknown => none ⟨p, noted, unknown⟩
      exact ⟨_, caught_of_noted noted known⟩
  · rw [hp] at ok
    cases ok
  · constructor
    · rintro - ⟨p, same, -⟩
      exact noted same
    · intro _
      exact ⟨_, h.caught_of_entries noted he⟩

/-- A poll that fails changes nothing but the noted version. A poll that succeeds announces exactly
what is not known, unless an earlier poll failed while a row was not known, and since then no other
connection has committed and the place of that row has not been written. -/
theorem poll_of_open? {d : Database} {s : Session} (h : open? d = .ok s) (es : List Event) :
    let t := s.after es
    (∀ err, t.poll.1 = .error err →
      t.poll.2 = { t with connection := { t.connection with noted := t.current } }) ∧
    ∀ n, t.poll.1 = .ok n →
      ((∃ cs, t.Caught cs) ↔ ¬∃ p, Run.Since step (Missed p) (Unnoticed p) s es) := by
  intro t
  have coherent₀ := coherent_of_open? h
  have coherent : t.Coherent := coherent₀.after es
  constructor
  · intro err failed
    rcases t.poll_cases with ⟨-, hp⟩ | ⟨-, _, -, hp⟩ | ⟨-, _, -, hp⟩ <;> rw [hp] at failed ⊢ <;>
      cases failed
  · intro n ok
    have lost : ∀ p, Lost p t ↔ Run.Since step (Missed p) (Unnoticed p) s es := fun p =>
      Run.iff_since Coherent (fun _ _ => True) (fun t e ht _ => ht.step e)
        (fun t e ht _ => ht.lost_step p e) coherent₀ (fun lost => lost.2 (agrees_of_open? h p))
        (Run.throughout_of_forall (fun _ _ => trivial) s es)
    rw [coherent.caught_iff ok]
    exact not_congr (exists_congr lost)

/-- A text is committed beside a blob, and the poll that fails at the blob is followed by another
one. -/
theorem exists_lost_change :
    ¬∀ (d : Database) (s : Session) (es : List Event) (n : Nat), open? d = .ok s →
      (s.after es).poll.1 = .ok n → ∃ cs, (s.after es).Caught cs := by
  intro claim
  have opened : open? .empty = .ok ⟨.empty, ⟨[], 0, 0, .empty⟩⟩ := rfl
  obtain ⟨cs, caught⟩ := claim .empty _
    [.upsert ("sync", "a") (.text "1"), .upsert ("sync", "b") (.blob [0]), .poll] 0 opened rfl
  have known := caught.agrees ⟨.sync, "a"⟩
  revert known
  unfold Agrees
  decide

/-- The same run with a poll before the blob, which announces the text. -/
theorem poll_of_open?_blob :
    let s : Session := ⟨.empty, ⟨[], 0, 0, .empty⟩⟩
    let es : List Event := [.upsert ("sync", "a") (.text "1"), .poll,
      .upsert ("sync", "b") (.blob [0]), .poll]
    (∃ cs, (s.after es).Caught cs) ↔
      ¬∃ p, Run.Since step (Missed p) (Unnoticed p) s es := by
  intro s es
  have opened : open? .empty = .ok s := rfl
  exact (poll_of_open? opened es).2 0 rfl

end Reroute.Session
