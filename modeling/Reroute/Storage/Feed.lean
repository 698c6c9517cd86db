import Reroute.Storage.Basic

/-!
# Feeds

A feed hands every change to all who listen. A subscriber has a queue of what it has not taken yet.
Those who left are forgotten when the next change is published.

## Main definitions

* `Feed`, `Feed.subscribe`, `Feed.leave`, `Feed.publish`.
* `Feed.next`, `Feed.takeAll` — what a subscriber takes from its queue.
-/

namespace Reroute

/-- Queues by subscriber, `none` for one who left, and the subscribers who are still sent to. -/
structure Feed where
  queues : List (Option (List Change))
  listed : List Nat

namespace Feed

def empty : Feed := ⟨[], []⟩

/-- The queue of a subscriber who has not left. -/
def queue? (f : Feed) (i : Nat) : Option (List Change) := (f.queues[i]?).join

/-- Adds a subscriber; returns its number. -/
def subscribe (f : Feed) : Nat × Feed :=
  (f.queues.length, ⟨f.queues ++ [some []], f.listed ++ [f.queues.length]⟩)

/-- A subscriber leaves and its queue is gone. -/
def leave (f : Feed) (i : Nat) : Feed := { f with queues := f.queues.set i none }

/-- Sends a change to one subscriber. -/
def send (c : Change) (queues : List (Option (List Change))) (i : Nat) :
    List (Option (List Change)) :=
  match queues[i]?.join with
  | some q => queues.set i (some (q ++ [c]))
  | none => queues

/-- Sends a change to all who listen, and forgets those who left. -/
def publish (f : Feed) (c : Change) : Feed where
  queues := f.listed.foldl (send c) f.queues
  listed := f.listed.filter fun i => (f.queue? i).isSome

/-- Sends changes one after the other. -/
def publishAll (f : Feed) (cs : List Change) : Feed := cs.foldl publish f

/-- What a subscriber finds. -/
inductive Next where
  | change (c : Change)
  | pending
  /-- Nothing waits, and the subscriber is not sent to any more. -/
  | closed
  | left

/-- Takes the next change from the queue of a subscriber. -/
def next (f : Feed) (i : Nat) : Next × Feed :=
  match f.queue? i with
  | none => (.left, f)
  | some [] => (if i ∈ f.listed then .pending else .closed, f)
  | some (c :: cs) => (.change c, { f with queues := f.queues.set i (some cs) })

/-- Takes all changes from the queue of a subscriber. -/
def takeAll (f : Feed) (i : Nat) : List Change × Feed :=
  match f.queue? i with
  | none => ([], f)
  | some cs => (cs, { f with queues := f.queues.set i (some []) })

/-! ## Queues after each operation -/

@[simp] theorem queue?_empty (i : Nat) : empty.queue? i = none := rfl

theorem lt_length_of_queue? {f : Feed} {i : Nat} {q : List Change} (h : f.queue? i = some q) :
    i < f.queues.length := by
  grind [queue?]

/-- A new subscriber starts with nothing. -/
theorem queue?_subscribe (f : Feed) (i : Nat) :
    f.subscribe.2.queue? i = if i = f.subscribe.1 then some [] else f.queue? i := by
  grind [queue?, subscribe]

theorem queue?_leave (f : Feed) (i j : Nat) :
    (f.leave i).queue? j = if j = i then none else f.queue? j := by
  grind [queue?, leave]

/-- A change is put at the end of the queue it is sent to. -/
theorem join_send (c : Change) (queues : List (Option (List Change))) (i j : Nat) :
    (send c queues i)[j]?.join =
      if j = i then queues[j]?.join.map (· ++ [c]) else queues[j]?.join := by
  unfold send
  split
  · rename_i q hq
    obtain ⟨lt, -⟩ := List.getElem?_eq_some_iff.1 (Option.join_eq_some_iff.1 hq)
    by_cases hj : j = i
    · subst hj
      rw [if_pos rfl, hq, List.getElem?_set_self lt]
      rfl
    · rw [if_neg hj, List.getElem?_set_ne (Ne.symm hj)]
  · rename_i hq
    by_cases hj : j = i
    · subst hj
      rw [if_pos rfl, hq]
      rfl
    · rw [if_neg hj]

/-- Taking a change leaves the rest of the queue, and the other queues as they are. -/
theorem queue?_next (f : Feed) (i j : Nat) :
    (f.next i).2.queue? j = if j = i then (f.queue? i).map List.tail else f.queue? j := by
  grind [next, queue?]

/-- A subscriber finds the first change of its queue. -/
theorem next_eq_change_iff {f : Feed} {i : Nat} {c : Change} :
    (f.next i).1 = .change c ↔ ∃ cs, f.queue? i = some (c :: cs) := by
  grind [next]

/-- While nothing waits, a subscriber takes nothing. -/
theorem next_of_nil {f : Feed} {i : Nat} (h : f.queue? i = some []) :
    f.next i = (if i ∈ f.listed then .pending else .closed, f) := by
  simp only [next, h]

@[simp] theorem takeAll_fst (f : Feed) (i : Nat) : (f.takeAll i).1 = (f.queue? i).getD [] := by
  grind [takeAll]

theorem queue?_takeAll (f : Feed) (i j : Nat) :
    (f.takeAll i).2.queue? j = if j = i then (f.queue? i).map fun _ => [] else f.queue? j := by
  grind [takeAll, queue?]

end Feed

end Reroute
