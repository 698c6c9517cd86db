import Mathlib.Data.List.Forall2
import Reroute.Proofs.Store.Outcome

/-!
# Stores that do the same at different storages

Calls and announced changes are worked out from the copies that a store has and the ids to come. The
storage only decides whether a change is saved. So two stores that start alike and are asked for the
same remain alike, although the one may save what the other cannot save.

## Main definitions

* `Move`, `Opened.move` — a call, or a change that is announced.
* `Opened.trace` — the answers to some moves, each with the store after it.
* `Answer.Matches` — answers are equal, unless one tells that a change was not saved.
* `Opened.Parallel` — stores with equal copies, on areas of the same names.

## Main results

* `Opened.Parallel.move` — a move leaves parallel stores parallel, whatever comes of writing.
* `Opened.Parallel.answer_move` — it is answered alike, unless one of them could not save it.
* `Opened.trace_matches` — so it is with all moves of a run.
-/

namespace Reroute

/-! ## Failures of writing -/

/-- A write that fails does so for one reason. -/
def Medium.FailsWith (σ : Type) [Medium σ] (reason : StorageError) : Prop :=
  ∀ (m : σ) p v e, Medium.write m p v = .error e → e = reason

theorem Memory.failsWith (reason : StorageError) : Medium.FailsWith Memory reason := nofun

theorem Session.failsWith (reason : StorageError) : Medium.FailsWith Session reason := nofun

/-- At a link with a fault or without, a write fails because the area cannot be written. -/
theorem Link.error_of_write {σ : Type} [Medium σ] (hσ : Medium.FailsWith σ .quotaExceeded)
    {l : Link} {m : σ} {key : String} {v : Json} {e : StorageError}
    (h : l.write m key v = .error e) : e = .quotaExceeded := by
  unfold Link.write at h
  split at h
  · exact hσ _ _ _ _ h
  · split at h <;> cases h
    rfl

/-! ## Moves -/

/-- What can be asked of a store without reading its storage. -/
inductive Move where
  | call (c : Call)
  | handle (c : Change)

/-- What a store answers to a move. -/
inductive Answer where
  | call (r : Except Store.Error Reply)
  | handle (r : Option Store.Reconciled)

/-- Answers are equal, unless the one tells of a change that was saved and the other of one that was
not. -/
inductive Answer.Matches : Answer → Answer → Prop where
  | same (x : Answer) : Matches x x
  | left (a : Reply) (e : StorageError) :
    Matches (.call (.error (.notSaved e))) (.call (.ok a))
  | right (a : Reply) (e : StorageError) :
    Matches (.call (.ok a)) (.call (.error (.notSaved e)))

/-- All that can be asked of two stores is equal. -/
structure Store.Same (s s' : Store) : Prop where
  rules : s'.rules = s.rules
  metrics : s'.metrics = s.metrics
  settings : s'.settings = s.settings
  issues : s'.issues = s.issues
  savings : s'.savings = s.savings
  ruleSavings : ∀ id, s'.ruleSavings id = s.ruleSavings id

namespace Opened

variable {σ τ : Type} {o : Opened σ} {o' : Opened τ}

/-- Stores with equal copies and the same ids to come, on areas of the same names. -/
structure Parallel (o : Opened σ) (o' : Opened τ) : Prop extends Alike o o' where
  config : o'.store.links.config.area = o.store.links.config.area
  device : o'.store.links.metrics.area = o.store.links.metrics.area

theorem Alike.same (h : Alike o o') : o.store.Same o'.store where
  rules := h.rules
  metrics := h.metrics
  settings := h.settings
  issues := by simp only [Store.issues, h.rules]
  savings := by simp only [Store.savings, h.metrics, h.settings]
  ruleSavings id := by simp only [Store.ruleSavings, h.metrics, h.settings]

/-- An announced change concerns both stores or none of them. -/
theorem Parallel.handle (h : Parallel o o') (c : Change) :
    (o'.store.handle c).1 = (o.store.handle c).1 ∧
      Parallel { o with store := (o.store.handle c).2 }
        { o' with store := (o'.store.handle c).2 } := by
  obtain ⟨⟨rules, metrics, settings, ids⟩, config, device⟩ := h
  unfold Store.handle
  rw [config, device]
  split
  · exact ⟨rfl, ⟨rules, rfl, settings, ids⟩, config, device⟩
  · split
    · exact ⟨rfl, ⟨rules, metrics, rfl, ids⟩, config, device⟩
    · exact ⟨rfl, ⟨rules, metrics, settings, ids⟩, config, device⟩

variable [Medium σ] [Medium τ]

/-- Makes a call, or takes an announced change. -/
def move (o : Opened σ) : Move → Answer × Opened σ
  | .call c => (.call (o.call c).1, (o.call c).2)
  | .handle c => (.handle (o.store.handle c).1, { o with store := (o.store.handle c).2 })

/-- The answers to some moves, each with the store after it. -/
def trace (o : Opened σ) : List Move → List (Answer × Store)
  | [] => []
  | m :: ms => ((o.move m).1, (o.move m).2.store) :: (o.move m).2.trace ms

/-- A call leaves the links of a store. -/
theorem call_links (o : Opened σ) (c : Call) : (o.call c).2.store.links = o.store.links := by
  obtain ⟨m, after⟩ := o.call_snd c
  rw [after]
  cases c.plan o.store o.ids <;> rfl

/-- Stores that are alike answer a call alike, unless one of them could not save it. -/
theorem matches_of_call (hσ : Medium.FailsWith σ .quotaExceeded)
    (hτ : Medium.FailsWith τ .quotaExceeded) (h : Alike o o') (c : Call) :
    Answer.Matches (.call (o.call c).1) (.call (o'.call c).1) := by
  have plan : c.plan o'.store o'.ids = c.plan o.store o.ids := by
    rw [h.ids, Call.plan_congr h.rules]
  have unsaved := o.call_cases c
  have unsaved' := o'.call_cases c
  rw [plan] at unsaved'
  rcases unsaved with ⟨e, refused, called⟩ | ⟨a, replied, saved⟩ <;>
    rcases unsaved' with ⟨e', refused', called'⟩ | ⟨a', replied', saved'⟩
  · rw [refused] at refused'
    cases refused'
    rw [called, called']
    exact .same _
  · rw [refused] at replied'
    cases replied'
  · rw [refused'] at replied
    cases replied
  · obtain rfl : a = a' := Except.ok.inj (replied.symm.trans replied')
    rcases saved with ⟨m, -, called⟩ | ⟨e, failed, called⟩ <;>
      rcases saved' with ⟨m', -, called'⟩ | ⟨e', failed', called'⟩ <;> rw [called, called']
    · exact .same _
    · exact .right _ _
    · exact .left _ _
    · rw [Link.error_of_write hσ failed, Link.error_of_write hτ failed']
      exact .same _

/-- A move leaves parallel stores parallel, whatever comes of writing at either storage. -/
theorem Parallel.move (h : Parallel o o') (m : Move) : Parallel (o.move m).2 (o'.move m).2 := by
  cases m with
  | call c =>
    have alike := (call_of_alike h.toAlike c).1
    refine ⟨alike, ?_, ?_⟩
    · simpa only [Opened.move, call_links] using h.config
    · simpa only [Opened.move, call_links] using h.device
  | handle c => exact (h.handle c).2

/-- A move is answered alike, unless one of the stores could not save it. -/
theorem Parallel.answer_move (hσ : Medium.FailsWith σ .quotaExceeded)
    (hτ : Medium.FailsWith τ .quotaExceeded) (h : Parallel o o') (m : Move) :
    (o.move m).1.Matches (o'.move m).1 := by
  cases m with
  | call c => exact matches_of_call hσ hτ h.toAlike c
  | handle c =>
    have answer := (h.handle c).1
    simp only [Opened.move, answer]
    exact .same _

/-- Parallel stores have equal copies after every move of a run, whatever comes of writing at either
storage. Where a write can fail for one reason only, they answer alike but for changes that one of
them could not save. -/
theorem trace_matches (h : Parallel o o') (ms : List Move) :
    List.Forall₂ (fun x x' => x.2.Same x'.2 ∧
      (Medium.FailsWith σ .quotaExceeded → Medium.FailsWith τ .quotaExceeded →
        x.1.Matches x'.1)) (o.trace ms) (o'.trace ms) := by
  induction ms generalizing o o' with
  | nil => exact .nil
  | cons m ms ih =>
    have parallel := h.move m
    exact .cons ⟨parallel.toAlike.same, fun hσ hτ => h.answer_move hσ hτ m⟩ (ih parallel)

/-- A rate is saved in memory, and not in a database that cannot be written. Then settings of others
are announced, and a rule is added and removed. -/
theorem trace_matches_unsaved :
    let o : Opened Memory := ⟨.new (.working true), .empty, .from 0⟩
    let o' : Opened Session := ⟨.new ⟨⟨.sync, some .readOnly⟩, .sound .device⟩,
      ⟨.empty, ⟨[], 0, 0, .empty⟩⟩, .from 0⟩
    let ms : List Move := [.call (.rate "0"),
      .handle ⟨⟨.sync, Store.settingsKey⟩, none, some (.object [])⟩,
      .call (.add "a.b" "http://c.d/"), .call (.delete "a")]
    (o.call (.rate "0")).1 = .ok (.rate (some .zero)) ∧
      (o'.call (.rate "0")).1 = .error (.notSaved .quotaExceeded) ∧
      List.Forall₂ (fun x x' => x.1.Matches x'.1 ∧ x.2.Same x'.2) (o.trace ms) (o'.trace ms) := by
  intro o o' ms
  have zero : Rate.ofInput "0" = .ok (some .zero) := by decide +kernel
  have parallel : Parallel o o' := ⟨⟨rfl, rfl, rfl, rfl⟩, rfl, rfl⟩
  refine ⟨?_, ?_, (trace_matches parallel ms).imp fun _ _ ⟨copies, answers⟩ =>
    ⟨answers (Memory.failsWith _) (Session.failsWith _), copies⟩⟩
  · simp only [call, setRate, zero]
    rfl
  · simp only [call, setRate, zero]
    rfl

end Opened

end Reroute
