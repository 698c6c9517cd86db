import Reroute.Storage.Feed

/-!
# Feeds deliver to all who listen

## Main definitions

* `Feed.Sound` — everyone who listens is sent to once.

## Main results

* `Feed.Sound.subscribe`, `Feed.Sound.publish`, `Feed.Sound.next` — operations keep feeds sound.
* `Feed.Sound.queue?_publishAll` — changes that are published stand at the end of every queue.
-/

namespace Reroute.Feed

/-- Everyone who listens stands once among those who are sent to. -/
structure Sound (f : Feed) : Prop where
  nodup : f.listed.Nodup
  bounded : ∀ i ∈ f.listed, i < f.queues.length
  listed : ∀ i q, f.queue? i = some q → i ∈ f.listed

theorem sound_empty : empty.Sound where
  nodup := List.nodup_nil
  bounded _ h := by cases h
  listed _ _ h := by cases h

theorem Sound.subscribe {f : Feed} (h : f.Sound) : f.subscribe.2.Sound where
  nodup := by
    refine List.nodup_append.2 ⟨h.nodup, List.nodup_cons.2 ⟨nofun, List.nodup_nil⟩, ?_⟩
    intro i hi j hj
    obtain rfl := List.mem_singleton.1 hj
    exact Nat.ne_of_lt (h.bounded i hi)
  bounded i hi := by
    have grown : f.subscribe.2.queues.length = f.queues.length + 1 := by simp [Feed.subscribe]
    rcases List.mem_append.1 hi with hi | hi
    · have := h.bounded i hi
      omega
    · obtain rfl := List.mem_singleton.1 hi
      omega
  listed i q hq := by
    rw [queue?_subscribe] at hq
    split at hq
    · rename_i new
      exact List.mem_append_right _ (List.mem_singleton.2 new)
    · exact List.mem_append_left _ (h.listed i q hq)

/-- Who listens already is not the new subscriber and keeps its queue. -/
theorem queue?_subscribe_other {f : Feed} {i : Nat} {q : List Change} (h : f.queue? i = some q) :
    i ≠ f.subscribe.1 ∧ f.subscribe.2.queue? i = f.queue? i := by
  have other : i ≠ f.subscribe.1 := Nat.ne_of_lt (lt_length_of_queue? h)
  exact ⟨other, by rw [queue?_subscribe, if_neg other]⟩

/-! ## Publishing -/

theorem join_foldl_send (c : Change) {listed : List Nat} (hn : listed.Nodup)
    (queues : List (Option (List Change))) (j : Nat) :
    (listed.foldl (send c) queues)[j]?.join =
      if j ∈ listed then queues[j]?.join.map (· ++ [c]) else queues[j]?.join := by
  induction listed generalizing queues with
  | nil => simp
  | cons i is ih =>
    obtain ⟨hi, his⟩ := List.nodup_cons.1 hn
    rw [List.foldl_cons, ih his, join_send]
    by_cases hj : j = i
    · subst hj
      simp [hi]
    · simp [hj]

theorem length_foldl_send (c : Change) (listed : List Nat)
    (queues : List (Option (List Change))) :
    (listed.foldl (send c) queues).length = queues.length := by
  induction listed generalizing queues with
  | nil => rfl
  | cons i is ih =>
    rw [List.foldl_cons, ih]
    unfold send
    split <;> simp

/-- A change stands at the end of every queue after it was published. -/
theorem Sound.queue?_publish {f : Feed} (h : f.Sound) (c : Change) (i : Nat) :
    (f.publish c).queue? i = (f.queue? i).map (· ++ [c]) := by
  change (f.listed.foldl (send c) f.queues)[i]?.join = _
  rw [join_foldl_send c h.nodup]
  split
  · rfl
  · rename_i unlisted
    cases hq : f.queue? i with
    | none => exact hq
    | some q => exact absurd (h.listed i q hq) unlisted

theorem Sound.publish {f : Feed} (h : f.Sound) (c : Change) : (f.publish c).Sound where
  nodup := h.nodup.filter _
  bounded i hi := by
    have := h.bounded i (List.mem_filter.1 hi).1
    rwa [Feed.publish, length_foldl_send]
  listed i q hq := by
    rw [h.queue?_publish] at hq
    obtain ⟨old, hold, -⟩ := Option.map_eq_some_iff.1 hq
    exact List.mem_filter.2 ⟨h.listed i old hold, by simp [hold]⟩

theorem Sound.publishAll {f : Feed} (h : f.Sound) (cs : List Change) : (f.publishAll cs).Sound := by
  induction cs generalizing f with
  | nil => exact h
  | cons c cs ih => exact ih (h.publish c)

theorem Sound.queue?_publishAll {f : Feed} (h : f.Sound) (cs : List Change) (i : Nat) :
    (f.publishAll cs).queue? i = (f.queue? i).map (· ++ cs) := by
  induction cs generalizing f with
  | nil =>
    change f.queue? i = _
    cases f.queue? i <;> simp
  | cons c cs ih =>
    change ((f.publish c).publishAll cs).queue? i = _
    rw [ih (h.publish c), h.queue?_publish]
    cases f.queue? i <;> simp

/-! ## Taking -/

theorem Sound.next {f : Feed} (h : f.Sound) (i : Nat) : (f.next i).2.Sound := by
  have same : (f.next i).2.listed = f.listed ∧
      (f.next i).2.queues.length = f.queues.length := by
    unfold Feed.next
    split <;> simp
  refine ⟨same.1 ▸ h.nodup, ?_, ?_⟩
  · rw [same.1, same.2]
    exact h.bounded
  · intro j q hq
    rw [queue?_next] at hq
    rw [same.1]
    split at hq
    · rename_i taken
      obtain ⟨old, hold, -⟩ := Option.map_eq_some_iff.1 hq
      exact taken ▸ h.listed i old hold
    · exact h.listed j q hq

/-! ## Leaving -/

theorem Sound.leave {f : Feed} (h : f.Sound) (i : Nat) : (f.leave i).Sound where
  nodup := h.nodup
  bounded j hj := by
    rw [Feed.leave, List.length_set]
    exact h.bounded j hj
  listed j q hq := by
    rw [queue?_leave] at hq
    split at hq
    · cases hq
    · exact h.listed j q hq

end Reroute.Feed
