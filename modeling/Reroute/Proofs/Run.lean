/-!
# Runs of events

A run takes events one after the other. What holds at its end may have begun at one of the events
and may have been kept by all later ones.

## Main definitions

* `Run.Throughout` — all events are of a kind, `Run.Since` — all events since one of another kind.

## Main results

* `Run.kept_or_since`, `Run.iff_since` — what holds at the end, from what a single event makes of
  it.
-/

namespace Reroute.Run

variable {σ ε : Type} {step : σ → ε → σ}

/-- Every event has a property at the state where it happens. -/
def Throughout (step : σ → ε → σ) (kept : σ → ε → Prop) : σ → List ε → Prop
  | _, [] => True
  | s, e :: es => kept s e ∧ Throughout step kept (step s e) es

/-- One of the events began something, and all events after it kept it. -/
def Since (step : σ → ε → σ) (began kept : σ → ε → Prop) (s : σ) (es : List ε) : Prop :=
  ∃ before e after, es = before ++ e :: after ∧ began (before.foldl step s) e ∧
    Throughout step kept (step (before.foldl step s) e) after

theorem throughout_of_forall {kept : σ → ε → Prop} (h : ∀ s e, kept s e) (s : σ) (es : List ε) :
    Throughout step kept s es := by
  induction es generalizing s with
  | nil => trivial
  | cons e es ih => exact ⟨h s e, ih _⟩

theorem throughout_of_mem {kept : ε → Prop} {es : List ε} (h : ∀ e ∈ es, kept e) (s : σ) :
    Throughout step (fun _ => kept) s es := by
  induction es generalizing s with
  | nil => trivial
  | cons e es ih =>
    exact ⟨h e List.mem_cons_self, ih (fun f hf => h f (List.mem_cons_of_mem e hf)) _⟩

theorem throughout_append {kept : σ → ε → Prop} {s : σ} {es fs : List ε} :
    Throughout step kept s (es ++ fs) ↔
      Throughout step kept s es ∧ Throughout step kept (es.foldl step s) fs := by
  induction es generalizing s with
  | nil => exact (and_iff_right trivial).symm
  | cons e es ih => exact (and_congr_right fun _ => ih).trans and_assoc.symm

theorem not_since_nil {began kept : σ → ε → Prop} {s : σ} : ¬Since step began kept s [] := by
  rintro ⟨before, e, after, hnil, -⟩
  cases before <;> cases hnil

/-- What began in a run began at its first event or later. -/
theorem since_cons {began kept : σ → ε → Prop} {s : σ} {e : ε} {es : List ε} :
    Since step began kept s (e :: es) ↔
      began s e ∧ Throughout step kept (step s e) es ∨ Since step began kept (step s e) es := by
  constructor
  · rintro ⟨before, f, after, hes, hbegan, hkept⟩
    cases before with
    | nil =>
      obtain ⟨rfl, rfl⟩ := List.cons.inj hes
      exact .inl ⟨hbegan, hkept⟩
    | cons g before =>
      obtain ⟨rfl, rfl⟩ := List.cons.inj hes
      exact .inr ⟨before, f, after, rfl, hbegan, hkept⟩
  · rintro (⟨hbegan, hkept⟩ | ⟨before, f, after, rfl, hbegan, hkept⟩)
    · exact ⟨[], e, es, rfl, hbegan, hkept⟩
    · exact ⟨e :: before, f, after, rfl, hbegan, hkept⟩

/-- If an event makes `p` hold only when it begins or keeps it, then `p` holds at the end of a run
only if it held at the start and was kept, or began somewhere and was kept since. -/
theorem kept_or_since (inv : σ → Prop) (guard : σ → ε → Prop) {p : σ → Prop}
    {began kept : σ → ε → Prop}
    (hinv : ∀ s e, inv s → guard s e → inv (step s e))
    (hp : ∀ s e, inv s → guard s e → p (step s e) → began s e ∨ p s ∧ kept s e)
    {s : σ} (hs : inv s) {es : List ε} (hes : Throughout step guard s es)
    (h : p (es.foldl step s)) :
    p s ∧ Throughout step kept s es ∨ Since step began kept s es := by
  induction es generalizing s with
  | nil => exact .inl ⟨h, trivial⟩
  | cons e es ih =>
    rw [since_cons]
    rcases ih (hinv s e hs hes.1) hes.2 h with ⟨now, rest⟩ | since
    · rcases hp s e hs hes.1 now with hbegan | ⟨before, hkept⟩
      · exact .inr (.inl ⟨hbegan, rest⟩)
      · exact .inl ⟨before, hkept, rest⟩
    · exact .inr (.inr since)

/-- The same as an equivalence, if `p` holds after every event that begins or keeps it. -/
theorem iff_or_since (inv : σ → Prop) (guard : σ → ε → Prop) {p : σ → Prop}
    {began kept : σ → ε → Prop}
    (hinv : ∀ s e, inv s → guard s e → inv (step s e))
    (hp : ∀ s e, inv s → guard s e → (p (step s e) ↔ began s e ∨ p s ∧ kept s e))
    {s : σ} (hs : inv s) {es : List ε} (hes : Throughout step guard s es) :
    p (es.foldl step s) ↔
      p s ∧ Throughout step kept s es ∨ Since step began kept s es := by
  constructor
  · exact kept_or_since inv guard hinv (fun s e hs he => (hp s e hs he).1) hs hes
  · induction es generalizing s with
    | nil =>
      rintro (⟨h, -⟩ | since)
      · exact h
      · exact absurd since not_since_nil
    | cons e es ih =>
      have later := ih (hinv s e hs hes.1) hes.2
      have now := hp s e hs hes.1
      rw [since_cons]
      rintro (⟨h, hkept, rest⟩ | ⟨hbegan, rest⟩ | since)
      · exact later (.inl ⟨now.2 (.inr ⟨h, hkept⟩), rest⟩)
      · exact later (.inl ⟨now.2 (.inl hbegan), rest⟩)
      · exact later (.inr since)

/-- What does not hold at first began at some event and was kept since. -/
theorem iff_since (inv : σ → Prop) (guard : σ → ε → Prop) {p : σ → Prop}
    {began kept : σ → ε → Prop}
    (hinv : ∀ s e, inv s → guard s e → inv (step s e))
    (hp : ∀ s e, inv s → guard s e → (p (step s e) ↔ began s e ∨ p s ∧ kept s e))
    {s : σ} (hs : inv s) (h₀ : ¬p s) {es : List ε} (hes : Throughout step guard s es) :
    p (es.foldl step s) ↔ Since step began kept s es := by
  rw [iff_or_since inv guard hinv hp hs hes]
  exact ⟨fun h => h.resolve_left fun h => h₀ h.1, .inr⟩

end Reroute.Run
