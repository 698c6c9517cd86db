import Reroute.Proofs.Storage.Feed

/-!
# Feeds deliver every change once

Subscribers come, take changes and leave in any order while changes are published. What a subscriber
who stays has taken, followed by what waits for it, is all that was published since it came.

## Main definitions

* `Feed.Event`, `Feed.after` — what may happen, and a feed after some events.
* `Feed.received` — what a subscriber takes at some events.
* `Feed.sweep` — one pass that sends to subscribers and forgets those who left.

## Main results

* `Feed.publish_eq_sweep` — publishing is one pass.
* `Feed.Sound.received_step` — what an event gives to a subscriber, and what it leaves waiting.
* `Feed.received_append_queue` — every change is delivered once, and no subscriber is cut off.
-/

namespace Reroute.Feed

/-! ## Publishing in one pass -/

/-- Sends a change to one subscriber after the other, and keeps those who have not left. -/
def sweep (c : Change) : List Nat → List (Option (List Change)) → Feed
  | [], queues => ⟨queues, []⟩
  | i :: is, queues =>
    match queues[i]?.join with
    | some q =>
      let f := sweep c is (queues.set i (some (q ++ [c])))
      { f with listed := i :: f.listed }
    | none => sweep c is queues

/-- Sending to one subscriber makes nobody leave. -/
theorem isSome_join_send (c : Change) (queues : List (Option (List Change))) (i j : Nat) :
    (send c queues i)[j]?.join.isSome = queues[j]?.join.isSome := by
  rw [join_send]
  split <;> simp

theorem sweep_eq (c : Change) (is : List Nat) (queues : List (Option (List Change))) :
    sweep c is queues = ⟨is.foldl (send c) queues, is.filter fun i => queues[i]?.join.isSome⟩ := by
  induction is generalizing queues with
  | nil => rfl
  | cons i is ih =>
    have rest : sweep c is (send c queues i) = ⟨is.foldl (send c) (send c queues i),
        is.filter fun j => queues[j]?.join.isSome⟩ := by
      simp only [ih, isSome_join_send]
    cases hi : queues[i]?.join with
    | none =>
      have unsent : send c queues i = queues := by simp only [send, hi]
      rw [unsent] at rest
      simp only [sweep, hi, rest, List.foldl_cons, unsent, List.filter_cons, Option.isSome_none,
        Bool.false_eq_true, if_false]
    | some q =>
      have sent : send c queues i = queues.set i (some (q ++ [c])) := by simp only [send, hi]
      rw [sent] at rest
      simp only [sweep, hi, rest, List.foldl_cons, sent, List.filter_cons, Option.isSome_some,
        if_true]

/-- Publishing is one pass over those who are sent to. -/
theorem publish_eq_sweep (f : Feed) (c : Change) : f.publish c = sweep c f.listed f.queues :=
  (sweep_eq c f.listed f.queues).symm

/-! ## Events -/

/-- What may happen at a feed. -/
inductive Event where
  | subscribe
  | publish (c : Change)
  | next (i : Nat)
  | leave (i : Nat)
  deriving DecidableEq

/-- The changes that an event publishes. -/
def Event.published : Event → List Change
  | .publish c => [c]
  | _ => []

def step (f : Feed) : Event → Feed
  | .subscribe => f.subscribe.2
  | .publish c => f.publish c
  | .next i => (f.next i).2
  | .leave i => f.leave i

/-- The feed after some events. -/
def after (f : Feed) (es : List Event) : Feed := es.foldl step f

/-- The change that a subscriber takes at an event, if it takes one. -/
def taken (f : Feed) (i : Nat) : Event → List Change
  | .next j =>
    match (f.next j).1 with
    | .change c => if j = i then [c] else []
    | _ => []
  | _ => []

/-- The changes that a subscriber takes at some events. -/
def received (f : Feed) (i : Nat) : List Event → List Change
  | [] => []
  | e :: es => f.taken i e ++ (f.step e).received i es

/-! ## Steps -/

theorem Sound.step {f : Feed} (h : f.Sound) (e : Event) : (f.step e).Sound := by
  cases e with
  | subscribe => exact h.subscribe
  | publish c => exact h.publish c
  | next i => exact h.next i
  | leave i => exact h.leave i

theorem Sound.after {f : Feed} (h : f.Sound) (es : List Event) : (f.after es).Sound := by
  induction es generalizing f with
  | nil => exact h
  | cons e es ih => exact ih (h.step e)

/-- A subscriber who takes changes takes them from the front of its queue. -/
theorem taken_next {f : Feed} {i : Nat} {q : List Change} (hq : f.queue? i = some q) :
    f.taken i (.next i) ++ q.tail = q := by
  cases q <;> grind [taken, next]

/-- What a subscriber who stays takes at an event, followed by what waits after it, is what waited
before, followed by what the event publishes. -/
theorem Sound.received_step {f : Feed} (h : f.Sound) {i : Nat} {q : List Change}
    (hq : f.queue? i = some q) {e : Event} (stays : e ≠ .leave i) :
    ∃ q', (f.step e).queue? i = some q' ∧ f.taken i e ++ q' = q ++ e.published := by
  cases e with
  | subscribe =>
    obtain ⟨-, same⟩ := queue?_subscribe_other hq
    exact ⟨q, same.trans hq, (List.append_nil q).symm⟩
  | publish c => exact ⟨q ++ [c], by rw [Feed.step, h.queue?_publish, hq, Option.map_some], rfl⟩
  | next j =>
    by_cases own : i = j
    · subst own
      exact ⟨q.tail, by rw [Feed.step, queue?_next, if_pos rfl, hq, Option.map_some],
        (taken_next hq).trans (List.append_nil q).symm⟩
    · have nothing : f.taken i (.next j) = [] := by grind [taken]
      refine ⟨q, by rw [Feed.step, queue?_next, if_neg own, hq], ?_⟩
      rw [nothing]
      exact (List.append_nil q).symm
  | leave j =>
    have other : i ≠ j := fun same => stays (same ▸ rfl)
    exact ⟨q, by rw [Feed.step, queue?_leave, if_neg other, hq], (List.append_nil q).symm⟩

/-! ## Runs -/

/-- The same along a run. -/
theorem Sound.received_run {f : Feed} (h : f.Sound) {i : Nat} {q : List Change}
    (hq : f.queue? i = some q) {es : List Event} (stays : .leave i ∉ es) :
    ∃ q', (f.after es).queue? i = some q' ∧
      f.received i es ++ q' = q ++ es.flatMap Event.published := by
  induction es generalizing f q with
  | nil => exact ⟨q, hq, (List.append_nil q).symm⟩
  | cons e es ih =>
    obtain ⟨now, later⟩ := not_or.1 (mt List.mem_cons.2 stays)
    obtain ⟨q₁, hq₁, first⟩ := h.received_step hq (Ne.symm now)
    obtain ⟨q₂, hq₂, rest⟩ := ih (h.step e) hq₁ later
    refine ⟨q₂, hq₂, ?_⟩
    calc f.taken i e ++ (f.step e).received i es ++ q₂
      _ = f.taken i e ++ q₁ ++ es.flatMap Event.published := by
        rw [List.append_assoc, rest, List.append_assoc]
      _ = q ++ (e :: es).flatMap Event.published := by
        rw [first, List.append_assoc, List.flatMap_cons]

/-- Someone who listens is sent to, so it finds what waits first, or that nothing waits yet. -/
theorem Sound.next_fst {f : Feed} (h : f.Sound) {i : Nat} {q : List Change}
    (hq : f.queue? i = some q) : (f.next i).1 = q.head?.elim .pending .change := by
  cases q with
  | nil => rw [next_of_nil hq, if_pos (h.listed i [] hq), List.head?_nil, Option.elim_none]
  | cons c cs =>
    exact next_eq_change_iff.2 ⟨cs, hq⟩

/-- Whatever else happens at a feed, a subscriber who has not left has taken all changes that were
published after it came, each once and in their order, but for those that still wait for it. What it
finds next is the first of these; if there is none, it is told to wait, and never that no change
will come any more. -/
theorem received_append_queue (before after : List Event) :
    let i := (empty.after before).subscribe.1
    let f := empty.after (before ++ .subscribe :: after)
    .leave i ∉ after →
      ∃ q, f.queue? i = some q ∧
        ((empty.after before).subscribe.2.received i after ++ q =
          after.flatMap Event.published) ∧
        (f.next i).1 = q.head?.elim .pending .change := by
  intro i f stays
  have sound : (empty.after before).subscribe.2.Sound := (sound_empty.after before).subscribe
  have start : (empty.after before).subscribe.2.queue? i = some [] :=
    (queue?_subscribe _ i).trans (if_pos rfl)
  have run : f = (empty.after before).subscribe.2.after after := List.foldl_append
  obtain ⟨q, hq, all⟩ := sound.received_run start stays
  rw [← run] at hq
  exact ⟨q, hq, all, (run ▸ sound.after after).next_fst hq⟩

/-- Between two others who leave, one of them unnoticed until the second change, someone takes the
first of three changes. -/
theorem received_append_queue_pruned :
    let change (n : UInt64) : Change := ⟨⟨.sync, "a"⟩, none, some (.number (.natural n))⟩
    let before : List Event := [.subscribe, .publish (change 0)]
    let after : List Event := [.subscribe, .leave 0, .publish (change 1), .next 1, .leave 2,
      .publish (change 2), .publish (change 3)]
    let f := empty.after (before ++ .subscribe :: after)
    .leave 1 ∉ after ∧ ∃ q, f.queue? 1 = some q ∧
      (empty.after before).subscribe.2.received 1 after ++ q = [change 1, change 2, change 3] ∧
      (f.next 1).1 = q.head?.elim .pending .change := by
  intro change before after f
  have stays : .leave 1 ∉ after := by decide
  exact ⟨stays, received_append_queue before after stays⟩

end Reroute.Feed
