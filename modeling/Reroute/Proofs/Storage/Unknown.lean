import Reroute.Proofs.Storage.Site

/-!
# Whether rows of unknown areas can be noticed

Two databases have the same rows of known areas. Connections are opened to both and are used alike,
and others commit alike, but for rows of unknown areas. If all of these hold texts, the only thing
that can differ is whether a poll looks, and this tells only where an earlier poll failed: then rows
that one run has lost are found by the other.

## Main definitions

* `Site.trace` — what is seen of a run, without commits to unknown areas.
* `Site.Matched` — runs with the same events, but for commits to unknown areas.
* `Site.Alike` — sites whose connections know the same.
* `Site.Balanced` — the same rows are lost at the polls of two runs.

## Main results

* `Site.Alike.act_iff` — the events that have the same outcome at sites that are alike.
* `Site.trace_eq_iff` — when both runs look the same.
-/

namespace Reroute

namespace Site

/-- All but commits of others to unknown areas. -/
def Event.visible : Event → Bool
  | .upsert row _ | .delete row => (Area.ofName? row.1).isSome
  | _ => true

/-- What is seen of a run, without commits of others to unknown areas. -/
def trace (t : Site) : List Event → List Response
  | [] => []
  | e :: es => if e.visible then (t.act e).1 :: (t.step e).trace es else (t.step e).trace es

/-! ## Two runs -/

/-- Runs with the same events, but for commits of others to unknown areas. -/
inductive Matched : List Event → List Event → Prop where
  | nil : Matched [] []
  | left {e : Event} {es es' : List Event} (hidden : e.visible = false) (rest : Matched es es') :
    Matched (e :: es) es'
  | right {e : Event} {es es' : List Event} (hidden : e.visible = false) (rest : Matched es es') :
    Matched es (e :: es')
  | both {e : Event} {es es' : List Event} (seen : e.visible = true) (rest : Matched es es') :
    Matched (e :: es) (e :: es')

theorem matched_nil {es : List Event} (h : es.filter Event.visible = []) : Matched [] es := by
  induction es with
  | nil => exact .nil
  | cons e es ih =>
    have all := List.filter_eq_nil_iff.1 h
    have hidden : e.visible = false := by simpa using all e List.mem_cons_self
    have rest := List.filter_eq_nil_iff.2 fun x hx => all x (List.mem_cons_of_mem e hx)
    exact .right hidden (ih rest)

theorem matched_cons {e : Event} {es : List Event} (seen : e.visible = true)
    (ih : ∀ es', es'.filter Event.visible = es.filter Event.visible → Matched es es')
    {es' : List Event} (h : es'.filter Event.visible = e :: es.filter Event.visible) :
    Matched (e :: es) es' := by
  induction es' with
  | nil => cases h
  | cons e' es' ih' =>
    rw [List.filter_cons] at h
    split at h
    · obtain ⟨rfl, rest⟩ := List.cons.inj h
      exact .both seen (ih es' rest)
    · rename_i hidden
      exact .right (by simpa using hidden) (ih' h)

/-- Runs match if what can be seen of their events is the same. -/
theorem matched_of_filter {es es' : List Event}
    (h : es'.filter Event.visible = es.filter Event.visible) : Matched es es' := by
  induction es generalizing es' with
  | nil => exact matched_nil h
  | cons e es ih =>
    rw [List.filter_cons] at h
    split at h
    · rename_i seen
      exact matched_cons seen (fun _ => ih) h
    · rename_i hidden
      exact .left (by simpa using hidden) (ih h)

/-- The same numbers of connections that are alike, at databases with the same known rows. -/
structure Alike (t t' : Site) : Prop where
  rows : t.database.SameKnown t'.database
  length : t'.connections.length = t.connections.length
  sessions : ∀ h s s', t.session? h = some s → t'.session? h = some s' → s.Alike s'

namespace Alike

variable {t t' : Site}

theorem symm (h : Alike t t') : Alike t' t :=
  ⟨h.rows.symm, h.length.symm, fun k s' s hs' hs => (h.sessions k s s' hs hs').symm⟩

theorem session? (h : Alike t t') (k : Nat) :
    (t.session? k = none ∧ t'.session? k = none) ∨
      ∃ s s', t.session? k = some s ∧ t'.session? k = some s' ∧ s.Alike s' := by
  have some_iff : (t'.session? k).isSome ↔ (t.session? k).isSome := by
    rw [session?_isSome, session?_isSome, h.length]
  cases hs : t.session? k with
  | none =>
    rw [hs] at some_iff
    exact .inl ⟨rfl, by simpa using some_iff⟩
  | some s =>
    rw [hs] at some_iff
    obtain ⟨s', hs'⟩ := Option.isSome_iff_exists.1 (some_iff.2 rfl)
    exact .inr ⟨s, s', rfl, hs', h.sessions k s s' hs hs'⟩

/-- Commits that leave the known rows the same leave sites alike. -/
theorem commit (h : Alike t t') {d d' : Database} (same : d.SameKnown d') :
    Alike { t with database := d } { t' with database := d' } where
  rows := same
  length := h.length
  sessions k s s' hs hs' := by
    rw [session?_commit] at hs hs'
    obtain ⟨r, hr, rfl⟩ := Option.map_eq_some_iff.1 hs
    obtain ⟨r', hr', rfl⟩ := Option.map_eq_some_iff.1 hs'
    exact (h.sessions k r r' hr hr').withDatabase same

/-- Commits to unknown areas leave sites alike. -/
theorem step_hidden (h : Alike t t') {e : Event} (hidden : e.visible = false) :
    Alike t (t'.step e) := by
  cases e with
  | upsert row c => exact h.commit (h.rows.upsert_foreign (by simpa [Event.visible] using hidden) c)
  | delete row => exact h.commit (h.rows.delete_foreign (by simpa [Event.visible] using hidden))
  | _ => cases hidden

/-- A use of connections that are alike, with the same outcome and leaving them alike, has the same
outcome at both sites and leaves these alike. -/
theorem use (h : Alike t t') (g : Nat) {f : Session → Response × Session}
    (hf : ∀ s s', t.session? g = some s → t'.session? g = some s' → s.Alike s' →
      (f s').1 = (f s).1 ∧ (f s).2.Alike (f s').2) :
    (t'.use g f).1 = (t.use g f).1 ∧ Alike (t.use g f).2 (t'.use g f).2 := by
  unfold Site.use
  rcases h.session? g with ⟨hs, hs'⟩ | ⟨s, s', hs, hs', alike⟩
  · rw [hs, hs']
    exact ⟨rfl, h⟩
  · obtain ⟨outcome, left⟩ := hf s s' hs hs' alike
    simp only [hs, hs']
    refine ⟨outcome, left.rows, ?_, fun k r r' hr hr' => ?_⟩
    · simp only [withSession, List.length_set, h.length]
    · rw [session?_withSession] at hr hr'
      split at hr
      · rename_i same
        subst same
        rw [if_pos rfl, hs'] at hr'
        rw [hs] at hr
        cases hr
        cases hr'
        exact left
      · rename_i other
        rw [if_neg other] at hr'
        obtain ⟨q, hq, rfl⟩ := Option.map_eq_some_iff.1 hr
        obtain ⟨q', hq', rfl⟩ := Option.map_eq_some_iff.1 hr'
        exact (h.sessions k q q' hq hq').withDatabase left.rows

/-- Connections that are opened know the same, or cannot be opened for the same reason. -/
theorem connect (h : Alike t t') (text : t.database.ForeignText) (text' : t'.database.ForeignText) :
    (t'.act .connect).1 = (t.act .connect).1 ∧ Alike (t.step .connect) (t'.step .connect) := by
  unfold step Site.act Session.open?
  rcases h.rows.entries? text text' with ⟨he, he'⟩ | ⟨es, es', he, he', same⟩
  · simp only [he, he']
    exact ⟨trivial, h⟩
  · simp only [he, he', true_and]
    refine ⟨h.rows, by simp [h.length], fun k s s' hs hs' => ?_⟩
    rw [session?_append] at hs hs'
    rw [h.length] at hs'
    split at hs
    · rename_i new
      rw [if_pos new] at hs'
      cases hs
      cases hs'
      exact ⟨h.rows, same, rfl⟩
    · rename_i old
      rw [if_neg old] at hs'
      exact h.sessions k s s' hs hs'

/-- Events but polls have the same outcome at both sites and leave them alike. -/
theorem act (h : Alike t t') (sound : t.Sound) (sound' : t'.Sound) {e : Event}
    (other : ∀ k, e ≠ .poll k) :
    (t'.act e).1 = (t.act e).1 ∧ Alike (t.step e) (t'.step e) := by
  cases e with
  | connect => exact h.connect sound.text sound'.text
  | get g p => exact h.use g fun s s' _ _ alike => ⟨by rw [alike.get], alike⟩
  | set g p v => exact h.use g fun s s' _ _ alike => ⟨by rw [alike.announced_set], alike.set p v⟩
  | poll g => exact absurd rfl (other g)
  | subscribe g =>
    refine h.use g fun s s' _ _ alike => ?_
    simp only [alike.feed, true_and]
    exact alike.withFeed _
  | leave g i =>
    refine h.use g fun s s' _ _ alike => ?_
    simp only [alike.feed, true_and]
    exact alike.withFeed _
  | next g i =>
    refine h.use g fun s s' _ _ alike => ?_
    simp only [alike.feed, true_and]
    exact alike.withFeed _
  | upsert row c => exact ⟨rfl, h.commit (h.rows.upsert row c)⟩
  | delete row => exact ⟨rfl, h.commit (h.rows.delete row)⟩

theorem lost_iff {s s' : Session} {k : Nat} (hs : t.session? k = some s)
    (hs' : t'.session? k = some s') (p : Place) :
    (Lost k p t' ↔ Lost k p t) ↔ (Session.Lost p s' ↔ Session.Lost p s) := by
  simp [Lost, hs, hs']

/-- A poll has the same outcome at both sites and leaves them alike if the same rows are lost. -/
theorem act_poll (h : Alike t t') (sound : t.Sound) (sound' : t'.Sound) {k : Nat}
    (same : ∀ p, Lost k p t' ↔ Lost k p t) :
    (t'.act (.poll k)).1 = (t.act (.poll k)).1 ∧ Alike (t.step (.poll k)) (t'.step (.poll k)) := by
  refine h.use k fun s s' hs hs' alike => ?_
  have c := sound.coherent k s hs
  have c' := sound'.coherent k s' hs'
  have text := database_of_session? hs ▸ sound.text
  have text' := database_of_session? hs' ▸ sound'.text
  have lost := fun p => (lost_iff hs hs' p).1 (same p)
  exact ⟨congrArg Response.polled ((alike.poll_iff c c' text text').2 lost),
    alike.poll c c' text text' lost⟩

/-- A poll has different outcomes unless the same rows are lost. -/
theorem lost_of_act_poll (h : Alike t t') (sound : t.Sound) (sound' : t'.Sound) {k : Nat}
    (same : (t'.act (.poll k)).1 = (t.act (.poll k)).1) (p : Place) :
    Lost k p t' ↔ Lost k p t := by
  rcases h.session? k with ⟨hs, hs'⟩ | ⟨s, s', hs, hs', alike⟩
  · simp [Lost, hs, hs']
  · simp only [Site.act, Site.use, hs, hs', Response.polled.injEq] at same
    rw [lost_iff hs hs' p]
    exact (alike.poll_iff (sound.coherent k s hs) (sound'.coherent k s' hs')
      (database_of_session? hs ▸ sound.text) (database_of_session? hs' ▸ sound'.text)).1 same p

/-- An event has the same outcome at both sites and leaves them alike, unless it is a poll of a
connection to which not the same rows are lost. -/
theorem act_iff (h : Alike t t') (sound : t.Sound) (sound' : t'.Sound) (e : Event) :
    ((t'.act e).1 = (t.act e).1 ↔ ∀ k, e = .poll k → ∀ p, Lost k p t' ↔ Lost k p t) ∧
      ((t'.act e).1 = (t.act e).1 → Alike (t.step e) (t'.step e)) := by
  by_cases poll : ∃ k, e = .poll k
  · obtain ⟨k, rfl⟩ := poll
    have same (outcome : (t'.act (.poll k)).1 = (t.act (.poll k)).1) :=
      h.lost_of_act_poll sound sound' outcome
    refine ⟨⟨fun outcome l hl => ?_, fun lost => ?_⟩, fun outcome => ?_⟩
    · cases hl
      exact same outcome
    · exact (h.act_poll sound sound' (lost k rfl)).1
    · exact (h.act_poll sound sound' (same outcome)).2
  · have other (k : Nat) : e ≠ .poll k := fun hk => poll ⟨k, hk⟩
    obtain ⟨outcome, left⟩ := h.act sound sound' other
    exact ⟨⟨fun _ k hk => absurd hk (other k), fun _ => outcome⟩, fun _ => left⟩

end Alike

/-! ## Polls of both runs -/

/-- Whenever both runs come to the same poll, the same rows are lost to its connection. -/
def Balanced (t t' : Site) (es es' : List Event) : Prop :=
  ∀ before rest before' rest' k, es = before ++ .poll k :: rest →
    es' = before' ++ .poll k :: rest' →
    before'.filter Event.visible = before.filter Event.visible →
    ∀ p, Lost k p (t'.after before') ↔ Lost k p (t.after before)

section Balanced

variable {t t' : Site} {e : Event} {es es' : List Event}

theorem Balanced.symm (h : Balanced t t' es es') : Balanced t' t es' es :=
  fun before rest before' rest' k hes hes' same p =>
    (h before' rest' before rest k hes' hes same.symm p).symm

theorem balanced_left (hidden : e.visible = false) :
    Balanced t t' (e :: es) es' ↔ Balanced (t.step e) t' es es' := by
  constructor
  · intro h before rest before' rest' k hes hes' same
    refine h (e :: before) rest before' rest' k (congrArg (e :: ·) hes) hes' ?_
    rw [List.filter_cons_of_neg (by simp [hidden]), same]
  · intro h before rest before' rest' k hes hes' same
    cases before with
    | nil =>
      obtain ⟨rfl, -⟩ := List.cons.inj hes
      cases hidden
    | cons x before =>
      obtain ⟨rfl, split⟩ := List.cons.inj hes
      rw [List.filter_cons_of_neg (by simp [hidden])] at same
      exact h before rest before' rest' k split hes' same

theorem balanced_right (hidden : e.visible = false) :
    Balanced t t' es (e :: es') ↔ Balanced t (t'.step e) es es' :=
  ⟨fun h => ((balanced_left hidden).1 h.symm).symm, fun h => ((balanced_left hidden).2 h.symm).symm⟩

theorem balanced_both (seen : e.visible = true) :
    Balanced t t' (e :: es) (e :: es') ↔
      (∀ k, e = .poll k → ∀ p, Lost k p t' ↔ Lost k p t) ∧
        Balanced (t.step e) (t'.step e) es es' := by
  constructor
  · intro h
    refine ⟨?_, fun before rest before' rest' k hes hes' same => ?_⟩
    · rintro k rfl
      exact h [] es [] es' k rfl rfl rfl
    · refine h (e :: before) rest (e :: before') rest' k (congrArg (e :: ·) hes)
        (congrArg (e :: ·) hes') ?_
      rw [List.filter_cons_of_pos seen, List.filter_cons_of_pos seen, same]
  · rintro ⟨now, later⟩ before rest before' rest' k hes hes' same
    cases before with
    | nil =>
      obtain ⟨rfl, -⟩ := List.cons.inj hes
      cases before' with
      | nil => exact now k rfl
      | cons x before' =>
        obtain ⟨rfl, -⟩ := List.cons.inj hes'
        rw [List.filter_cons_of_pos seen] at same
        cases same
    | cons x before =>
      obtain ⟨rfl, split⟩ := List.cons.inj hes
      cases before' with
      | nil =>
        rw [List.filter_cons_of_pos seen] at same
        cases same
      | cons x' before' =>
        obtain ⟨rfl, split'⟩ := List.cons.inj hes'
        rw [List.filter_cons_of_pos seen, List.filter_cons_of_pos seen] at same
        exact later before rest before' rest' k split split' (List.cons.inj same).2

end Balanced

theorem trace_hidden (t : Site) {e : Event} (hidden : e.visible = false) (es : List Event) :
    t.trace (e :: es) = (t.step e).trace es := by simp [trace, hidden]

theorem trace_seen (t : Site) {e : Event} (seen : e.visible = true) (es : List Event) :
    t.trace (e :: es) = (t.act e).1 :: (t.step e).trace es := by simp [trace, seen]

/-- Both runs look the same exactly if the same rows are lost at the polls of both. -/
theorem Matched.trace_iff_balanced {es es' : List Event} (m : Matched es es') {t t' : Site}
    (alike : Alike t t') (sound : t.Sound) (sound' : t'.Sound)
    (textual : ∀ e ∈ es, e.Textual) (textual' : ∀ e ∈ es', e.Textual) :
    t'.trace es' = t.trace es ↔ Balanced t t' es es' := by
  induction m generalizing t t' with
  | nil =>
    refine iff_of_true rfl ?_
    rintro (_ | ⟨x, before⟩) rest before' rest' k hes <;> cases hes
  | left hidden rest ih =>
    obtain ⟨now, later⟩ := List.forall_mem_cons.1 textual
    rw [trace_hidden t hidden, balanced_left hidden]
    exact ih (alike.symm.step_hidden hidden).symm (sound.step now) sound' later textual'
  | right hidden rest ih =>
    obtain ⟨now, later⟩ := List.forall_mem_cons.1 textual'
    rw [trace_hidden t' hidden, balanced_right hidden]
    exact ih (alike.step_hidden hidden) sound (sound'.step now) textual later
  | @both e es es' seen rest ih =>
    obtain ⟨now, later⟩ := List.forall_mem_cons.1 textual
    obtain ⟨now', later'⟩ := List.forall_mem_cons.1 textual'
    obtain ⟨outcome, left⟩ := alike.act_iff sound sound' e
    rw [trace_seen t seen, trace_seen t' seen, balanced_both seen, List.cons.injEq, ← outcome]
    exact and_congr_right fun same =>
      ih (left same) (sound.step now) (sound'.step now') later later'

/-- No row is lost to any connection. -/
def NoneLost (t : Site) : Prop := ∀ k p, ¬Lost k p t

/-- As long as no poll fails, no row is lost. -/
theorem Sound.noneLost_step {t : Site} (sound : t.Sound) (none : t.NoneLost) {e : Event}
    (fine : ∀ err cs, (t.act e).1 ≠ .polled (.error err, cs)) : (t.step e).NoneLost := by
  intro k p lost
  rcases (sound.lost_step k p e).1 lost with ⟨rfl, s, hs, -, ⟨err, failed⟩, -⟩ | ⟨before, -⟩
  · refine fine err (s.announced .poll) ?_
    simp only [act, use, hs, Session.pollOutcome, failed]
  · exact none k p before

theorem act_ne_polled_of_hidden {t : Site} {e : Event} (hidden : e.visible = false)
    (r : Except StorageError Nat × List Change) : (t.act e).1 ≠ .polled r := by
  cases e with
  | upsert row c => nofun
  | delete row => nofun
  | _ => cases hidden

/-- If no poll fails in one of the runs, both look the same. -/
theorem Matched.trace_same {es es' : List Event} (m : Matched es es') {t t' : Site}
    (alike : Alike t t') (sound : t.Sound) (sound' : t'.Sound)
    (textual : ∀ e ∈ es, e.Textual) (textual' : ∀ e ∈ es', e.Textual)
    (none : t.NoneLost) (none' : t'.NoneLost)
    (fine : ∀ err cs, .polled (.error err, cs) ∉ t.trace es) : t'.trace es' = t.trace es := by
  induction m generalizing t t' with
  | nil => rfl
  | left hidden rest ih =>
    obtain ⟨now, later⟩ := List.forall_mem_cons.1 textual
    rw [trace_hidden t hidden] at fine ⊢
    exact ih (alike.symm.step_hidden hidden).symm (sound.step now) sound' later textual'
      (sound.noneLost_step none fun _ _ => act_ne_polled_of_hidden hidden _) none' fine
  | right hidden rest ih =>
    obtain ⟨now, later⟩ := List.forall_mem_cons.1 textual'
    rw [trace_hidden t' hidden]
    exact ih (alike.step_hidden hidden) sound (sound'.step now) textual later none
      (sound'.noneLost_step none' fun _ _ => act_ne_polled_of_hidden hidden _) fine
  | @both e es es' seen rest ih =>
    obtain ⟨now, later⟩ := List.forall_mem_cons.1 textual
    obtain ⟨now', later'⟩ := List.forall_mem_cons.1 textual'
    obtain ⟨outcome, left⟩ := alike.act_iff sound sound' e
    have same := outcome.2 fun k _ p => iff_of_false (none' k p) (none k p)
    rw [trace_seen t seen] at fine ⊢
    rw [trace_seen t' seen, same]
    have here (err : StorageError) (cs : List Change) :
        (t.act e).1 ≠ .polled (.error err, cs) :=
      fun failed => fine err cs (failed ▸ List.mem_cons_self)
    refine congrArg _ (ih (left same) (sound.step now) (sound'.step now') later later'
      (sound.noneLost_step none here) (sound'.noneLost_step none' (same ▸ here)) ?_)
    exact fun err cs later => fine err cs (List.mem_cons_of_mem _ later)

/-- Two databases have the same rows of known areas. Connections are opened to both and used in the
same way, others commit the same to known areas between the same events, and what is there or is
committed in unknown areas are texts. Then all results and all announced changes are the same in
both runs, if and only if at each poll the same rows are lost: those that were not known at a poll
that failed, with no commit of others and no write of the place since. In particular they are the
same if no poll fails. -/
theorem trace_eq_iff {d d' : Database} (known : d.SameKnown d') (text : d.ForeignText)
    (text' : d'.ForeignText) {es es' : List Event}
    (same : es'.filter Event.visible = es.filter Event.visible)
    (textual : ∀ e ∈ es, e.Textual) (textual' : ∀ e ∈ es', e.Textual) :
    let t : Site := ⟨d, []⟩
    let t' : Site := ⟨d', []⟩
    (t'.trace es' = t.trace es ↔
      ∀ before rest before' rest' k, es = before ++ .poll k :: rest →
        es' = before' ++ .poll k :: rest' →
        before'.filter Event.visible = before.filter Event.visible →
        ∀ p, Run.Since step (Missed k p) (Unnoticed k p) t' before' ↔
          Run.Since step (Missed k p) (Unnoticed k p) t before) ∧
    ((∀ err cs, .polled (.error err, cs) ∉ t.trace es) → t'.trace es' = t.trace es) := by
  intro t t'
  have matched := matched_of_filter same
  have alike : Alike t t' := ⟨known, rfl, nofun⟩
  have sound := Sound.start text
  have sound' := Sound.start text'
  have none (d : Database) : NoneLost ⟨d, []⟩ := fun k p lost => nomatch lost.choose_spec.1
  constructor
  · rw [matched.trace_iff_balanced alike sound sound' textual textual']
    have lost {d : Database} (text : d.ForeignText) {es before rest : List Event}
        (textual : ∀ e ∈ es, e.Textual) (hes : es = before ++ rest) (k : Nat) (p : Place) :
        Lost k p ((⟨d, []⟩ : Site).after before) ↔
          Run.Since step (Missed k p) (Unnoticed k p) ⟨d, []⟩ before :=
      lost_iff_since text
        (fun e he => textual e (hes ▸ List.mem_append_left rest he)) k p
    constructor
    · intro h before rest before' rest' k hes hes' same p
      rw [← lost text textual hes, ← lost text' textual' hes']
      exact h before rest before' rest' k hes hes' same p
    · intro h before rest before' rest' k hes hes' same p
      rw [lost text textual hes, lost text' textual' hes']
      exact h before rest before' rest' k hes hes' same p
  · exact matched.trace_same alike sound sound' textual textual' (none d) (none d')

/-- A text is committed to an unknown area in one of the runs. -/
theorem trace_eq_iff_attic :
    let shared : Event := .upsert ("sync", "a") (.text "1")
    let es : List Event := [.connect, .subscribe 0, shared, .poll 0, .next 0 0]
    let es' : List Event := [.connect, .subscribe 0, .upsert ("attic", "b") (.text "x"), shared,
      .poll 0, .next 0 0]
    (⟨.empty, []⟩ : Site).trace es' = (⟨.empty, []⟩ : Site).trace es := by
  intro shared es es'
  have none : Database.empty.ForeignText := nofun
  have same : es'.filter Event.visible = es.filter Event.visible := rfl
  have textual : ∀ e ∈ es', e.Textual := by
    intro e he
    simp only [es', List.mem_cons, List.not_mem_nil, or_false] at he
    rcases he with rfl | rfl | rfl | rfl | rfl | rfl <;> trivial
  have textual' : ∀ e ∈ es, e.Textual := by
    intro e he
    simp only [es, List.mem_cons, List.not_mem_nil, or_false] at he
    rcases he with rfl | rfl | rfl | rfl | rfl <;> trivial
  have fine : ((⟨.empty, []⟩ : Site).trace es).all
      (fun | .polled (.error _, _) => false | _ => true) = true := by decide +kernel
  refine (trace_eq_iff (fun _ => rfl) none none same textual' textual).2 fun err cs polled => ?_
  simpa using List.all_eq_true.1 fine _ polled

/-- Bytes in a row of an unknown area can be noticed: no connection can be opened. -/
theorem exists_noticed_row :
    ¬∀ (d d' : Database) (es es' : List Event), d.SameKnown d' →
      es'.filter Event.visible = es.filter Event.visible →
      (⟨d', []⟩ : Site).trace es' = (⟨d, []⟩ : Site).trace es := by
  intro claim
  let row : String × String := ("attic", "a")
  have foreign : Area.ofName? row.1 = none := by decide
  have known : Database.empty.SameKnown (Database.empty.upsert row (.blob [0])) :=
    Database.SameKnown.upsert_foreign (fun _ => rfl) foreign _
  cases claim .empty _ [.connect] [.connect] known rfl

end Site

end Reroute
