import Reroute.Proofs.Storage.Foreign

/-!
# A database and its connections

Any number of connections are opened to one database and used, and others commit. Each connection
takes part in a run of its own, in which the writes of the other connections are commits of others.

## Main definitions

* `Site`, `Site.Event`, `Site.Response` — a database and its connections, what happens there, and
  what comes of it.
* `Site.Sound` — what holds at all times where unknown areas hold texts.
* `Site.Lost` — a row that a connection does not know, and that its next poll will not look at.
* `Site.Missed`, `Site.Unnoticed` — how a row is lost, and remains so.

## Main results

* `Site.session?_step` — every connection takes part in a run of its own.
* `Site.lost_iff_since` — which rows are lost.
-/

namespace Reroute

/-- At most the feed has changed. -/
def Session.Refed (s s' : Session) : Prop :=
  ∃ feed, (s.connection.feed.Sound → feed.Sound) ∧ s' = s.withFeed feed

theorem Session.Refed.refl (s : Session) : s.Refed s := ⟨s.connection.feed, id, rfl⟩

theorem Session.Refed.coherent {s s' : Session} (h : s.Refed s') (c : s.Coherent) :
    s'.Coherent := by
  obtain ⟨feed, sound, rfl⟩ := h
  exact c.withFeed (sound c.sound)

theorem Session.Refed.lost_iff {s s' : Session} (h : s.Refed s') (p : Place) :
    Session.Lost p s' ↔ Session.Lost p s := by
  obtain ⟨feed, -, rfl⟩ := h
  exact Iff.rfl

theorem Session.Refed.current {s s' : Session} (h : s.Refed s') : s'.current = s.current := by
  obtain ⟨feed, -, rfl⟩ := h
  rfl

/-- A database and the connections that were opened to it. -/
structure Site where
  database : Database
  connections : List Connection

namespace Site

/-- What happens at a site: connections are opened and used by their numbers, and others commit. -/
inductive Event where
  | connect
  | get (h : Nat) (p : Place)
  | set (h : Nat) (p : Place) (v : Json)
  | poll (h : Nat)
  | subscribe (h : Nat)
  | leave (h i : Nat)
  | next (h i : Nat)
  | upsert (row : String × String) (c : Cell)
  | delete (row : String × String)

/-- What comes of an event; what is written or polled is told with the changes announced. -/
inductive Response where
  | nothing
  | opened (r : Except StorageError Unit)
  | value (r : Except StorageError (Option Json))
  | written (announced : List Change)
  | polled (r : Except StorageError Nat × List Change)
  | listener (i : Nat)
  | next (n : Feed.Next)
  | noConnection

/-- The connection of a number, at the database. -/
def session? (t : Site) (h : Nat) : Option Session :=
  t.connections[h]?.map fun c => ⟨t.database, c⟩

/-- Something happened at the connection of a number. -/
def withSession (t : Site) (h : Nat) (s : Session) : Site :=
  ⟨s.database, t.connections.set h s.connection⟩

/-- Uses the connection of a number, if there is one. -/
def use (t : Site) (h : Nat) (f : Session → Response × Session) : Response × Site :=
  match t.session? h with
  | none => (.noConnection, t)
  | some s => ((f s).1, t.withSession h (f s).2)

/-- What comes of an event, and the site after it. -/
def act (t : Site) : Event → Response × Site
  | .connect =>
    match Session.open? t.database with
    | .error e => (.opened (.error e), t)
    | .ok s => (.opened (.ok ()), { t with connections := t.connections ++ [s.connection] })
  | .get h p => t.use h fun s => (.value (s.get p), s)
  | .set h p v => t.use h fun s => (.written (s.announced (.set p v)), s.set p v)
  | .poll h => t.use h fun s => (.polled s.pollOutcome, s.poll.2)
  | .subscribe h => t.use h fun s =>
    (.listener s.connection.feed.subscribe.1, s.withFeed s.connection.feed.subscribe.2)
  | .leave h i => t.use h fun s => (.nothing, s.withFeed (s.connection.feed.leave i))
  | .next h i => t.use h fun s =>
    (.next (s.connection.feed.next i).1, s.withFeed (s.connection.feed.next i).2)
  | .upsert row c => (.nothing, { t with database := t.database.upsert row c })
  | .delete row => (.nothing, { t with database := t.database.delete row })

def step (t : Site) (e : Event) : Site := (t.act e).2

/-- The site after some events. -/
def after (t : Site) (es : List Event) : Site := es.foldl step t

/-- What is committed to an unknown area is a text. -/
def Event.Textual : Event → Prop
  | .upsert row (.blob _) => (Area.ofName? row.1).isSome
  | _ => True

/-! ## Single connections -/

theorem session?_withSession (t : Site) (g h : Nat) (s : Session) :
    (t.withSession g s).session? h =
      if g = h then (t.session? h).map fun _ => s
      else (t.session? h).map fun r => r.withDatabase s.database := by
  unfold session? withSession
  rw [List.getElem?_set]
  by_cases same : g = h
  · subst same
    by_cases lt : g < t.connections.length <;> simp [lt]
  · simp [same, Session.withDatabase, Function.comp_def]

theorem session?_commit (t : Site) (d : Database) (h : Nat) :
    ({ t with database := d } : Site).session? h =
      (t.session? h).map fun s => s.withDatabase d := by
  simp [session?, Session.withDatabase, Function.comp_def]

theorem session?_append (t : Site) (c : Connection) (h : Nat) :
    ({ t with connections := t.connections ++ [c] } : Site).session? h =
      if h = t.connections.length then some ⟨t.database, c⟩ else t.session? h := by
  unfold session?
  rw [List.getElem?_append]
  grind

/-- What a use of a connection does to each of them. -/
theorem session?_use {t : Site} {h : Nat} {s : Session} (hs : t.session? h = some s) (g : Nat)
    (f : Session → Response × Session) :
    (t.use g f).2.session? h =
      if g = h then some (f s).2
      else match t.session? g with
        | none => some s
        | some r => some (s.withDatabase (f r).2.database) := by
  unfold use
  by_cases same : g = h
  · subst same
    simp only [hs, session?_withSession, if_true, Option.map_some]
  · cases hg : t.session? g with
    | none => simp only [hs, if_neg same]
    | some r => simp only [session?_withSession, if_neg same, hs, Option.map_some]

/-- What happens at a connection when something happens at the site. -/
def seen (t : Site) (h : Nat) : Event → Option Session.Event
  | .set g p v =>
    if g = h then some (.set p v)
    else if (t.session? g).isSome then some (.upsert (Database.rowOf p) (.text v.print)) else none
  | .poll g => if g = h then some .poll else none
  | .upsert row c => some (.upsert row c)
  | .delete row => some (.delete row)
  | _ => none

theorem database_of_session? {t : Site} {h : Nat} {s : Session} (hs : t.session? h = some s) :
    s.database = t.database := by
  obtain ⟨c, -, rfl⟩ := Option.map_eq_some_iff.1 hs
  rfl

/-- A use that concerns the feed of one connection concerns no more of any. -/
theorem session?_use_feed {t : Site} {h : Nat} {s : Session} (hs : t.session? h = some s) (g : Nat)
    {f : Session → Response × Session} (hf : ∀ r : Session, r.Refed (f r).2) :
    ∃ s', (t.use g f).2.session? h = some s' ∧ s.Refed s' := by
  rw [session?_use hs]
  split
  · exact ⟨_, rfl, hf s⟩
  · split
    · exact ⟨s, rfl, .refl s⟩
    · rename_i r hr
      obtain ⟨feed, -, left⟩ := hf r
      have same : (f r).2.database = s.database := by
        rw [left]
        exact (database_of_session? hr).trans (database_of_session? hs).symm
      exact ⟨_, rfl, by rw [same]; exact .refl s⟩

/-- Every connection takes part in a run of its own; other uses of it concern its feed only. -/
theorem session?_step {t : Site} {h : Nat} {s : Session} (hs : t.session? h = some s) (e : Event) :
    ∃ s', (t.step e).session? h = some s' ∧
      match t.seen h e with
      | some e => s' = s.step e
      | none => s.Refed s' := by
  obtain ⟨c, hc, rfl⟩ := Option.map_eq_some_iff.1 hs
  cases e with
  | connect =>
    refine ⟨_, ?_, .refl _⟩
    have lt : h < t.connections.length := (List.getElem?_eq_some_iff.1 hc).1
    unfold step act session?
    cases Session.open? t.database with
    | error e => exact hs
    | ok r =>
      dsimp only
      rw [List.getElem?_append_left lt]
      exact hs
  | get g p => exact session?_use_feed hs g fun r => .refl r
  | subscribe g => exact session?_use_feed hs g fun r => ⟨_, fun sound => sound.subscribe, rfl⟩
  | leave g i => exact session?_use_feed hs g fun r => ⟨_, fun sound => sound.leave i, rfl⟩
  | next g i => exact session?_use_feed hs g fun r => ⟨_, fun sound => sound.next i, rfl⟩
  | upsert row cell => exact ⟨_, by rw [step, act, session?, hc]; rfl, rfl⟩
  | delete row => exact ⟨_, by rw [step, act, session?, hc]; rfl, rfl⟩
  | set g p v =>
    have used := session?_use hs g fun r => (.written (r.announced (.set p v)), r.set p v)
    split at used
    · rename_i same
      have sees : t.seen h (.set g p v) = some (.set p v) := if_pos same
      rw [sees]
      exact ⟨_, used, rfl⟩
    · rename_i other
      cases hg : t.session? g with
      | none =>
        have sees : t.seen h (.set g p v) = none := by simp [seen, other, hg]
        rw [hg] at used
        rw [sees]
        exact ⟨_, used, .refl _⟩
      | some r =>
        have sees : t.seen h (.set g p v) =
            some (.upsert (Database.rowOf p) (.text v.print)) := by simp [seen, other, hg]
        have committed : (r.set p v).database =
            t.database.upsert (Database.rowOf p) (.text v.print) := by
          rw [Session.set_eq, database_of_session? hg]
        rw [hg] at used
        rw [sees]
        exact ⟨_, used, by rw [committed]; rfl⟩
  | poll g =>
    have used := session?_use hs g fun r => (.polled r.pollOutcome, r.poll.2)
    split at used
    · rename_i same
      have sees : t.seen h (.poll g) = some .poll := if_pos same
      rw [sees]
      exact ⟨_, used, rfl⟩
    · rename_i other
      have sees : t.seen h (.poll g) = none := if_neg other
      rw [sees]
      refine ⟨_, ?_, .refl _⟩
      cases hg : t.session? g with
      | none =>
        rw [hg] at used
        exact used
      | some r =>
        rw [hg] at used
        dsimp only at used
        rw [Session.database_poll, database_of_session? hg] at used
        exact used

/-! ## What holds at all times -/

theorem session?_isSome (t : Site) (h : Nat) :
    (t.session? h).isSome ↔ h < t.connections.length := by
  simp [session?]

theorem length_use (t : Site) (g : Nat) (f : Session → Response × Session) :
    (t.use g f).2.connections.length = t.connections.length := by
  unfold use
  split
  · rfl
  · exact List.length_set

/-- A connection was there before, or has just been opened. -/
theorem session?_origin {t : Site} {h : Nat} {e : Event} {s' : Session}
    (hs : (t.step e).session? h = some s') :
    (∃ s, t.session? h = some s) ∨ e = .connect ∧ Session.open? t.database = .ok s' := by
  by_cases old : h < t.connections.length
  · exact .inl (Option.isSome_iff_exists.1 ((t.session?_isSome h).2 old))
  have lt : h < (t.step e).connections.length :=
    ((t.step e).session?_isSome h).1 (Option.isSome_of_mem hs)
  cases e with
  | connect =>
    unfold step act at hs lt
    cases ho : Session.open? t.database with
    | error e =>
      rw [ho] at lt
      exact absurd lt old
    | ok r =>
      rw [ho] at hs lt
      dsimp only at hs lt
      rw [List.length_append, List.length_singleton] at lt
      have last : h = t.connections.length := by omega
      have db : r.database = t.database := by
        unfold Session.open? at ho
        split at ho <;> cases ho
        rfl
      have this : some (⟨t.database, r.connection⟩ : Session) = some s' := by
        rw [← hs, session?, last, List.getElem?_append_right (Nat.le_refl _)]
        simp
      refine .inr ⟨rfl, ?_⟩
      rw [← Option.some.inj this, ← db]
  | upsert row c => exact absurd lt old
  | delete row => exact absurd lt old
  | _ => exact absurd (Nat.lt_of_lt_of_eq lt (t.length_use _ _)) old

/-- All connections are in order, and rows of unknown areas hold texts. -/
structure Sound (t : Site) : Prop where
  coherent : ∀ h s, t.session? h = some s → s.Coherent
  text : t.database.ForeignText

theorem Sound.start {d : Database} (text : d.ForeignText) : Sound ⟨d, []⟩ := ⟨nofun, text⟩

theorem Sound.database_use {t : Site} (h : t.Sound) (g : Nat) {f : Session → Response × Session}
    (hf : ∀ s, t.session? g = some s → (f s).2.database.ForeignText) :
    (t.use g f).2.database.ForeignText := by
  unfold use
  cases hg : t.session? g with
  | none => exact h.text
  | some s => exact hf s hg

theorem Sound.step {t : Site} (h : t.Sound) {e : Event} (he : e.Textual) : (t.step e).Sound where
  coherent k s' hs' := by
    rcases session?_origin hs' with ⟨s, hs⟩ | ⟨-, opened⟩
    · obtain ⟨r, hr, seen⟩ := session?_step hs e
      obtain rfl := Option.some.inj (hr.symm.trans hs')
      have coherent := h.coherent k s hs
      split at seen
      · exact seen ▸ coherent.step _
      · exact seen.coherent coherent
    · exact Session.coherent_of_open? opened
  text := by
    have kept (s : Session) {g : Nat} (hs : t.session? g = some s) : s.database.ForeignText :=
      database_of_session? hs ▸ h.text
    cases e with
    | connect =>
      change (t.act .connect).2.database.ForeignText
      unfold act
      cases Session.open? t.database <;> exact h.text
    | get g p => exact h.database_use g fun s hs => kept s hs
    | set g p v =>
      refine h.database_use g fun s hs => ?_
      rw [Session.set_eq]
      exact (kept s hs).upsert fun _ => ⟨_, rfl⟩
    | poll g =>
      refine h.database_use g fun s hs => ?_
      rw [Session.database_poll]
      exact kept s hs
    | subscribe g => exact h.database_use g fun s hs => kept s hs
    | leave g i => exact h.database_use g fun s hs => kept s hs
    | next g i => exact h.database_use g fun s hs => kept s hs
    | upsert row c =>
      refine h.text.upsert fun foreign => ?_
      cases c with
      | text t => exact ⟨t, rfl⟩
      | blob bytes =>
        have known : (Area.ofName? row.1).isSome := he
        rw [foreign] at known
        cases known
    | delete row => exact h.text.delete row

/-! ## Lost rows -/

/-- A connection does not know the row of a place, and its next poll will not look at it. -/
def Lost (h : Nat) (p : Place) (t : Site) : Prop :=
  ∃ s, t.session? h = some s ∧ Session.Lost p s

/-- A poll of a connection fails while it does not know the row of a place. -/
def Missed (h : Nat) (p : Place) (t : Site) (e : Event) : Prop :=
  e = .poll h ∧ ∃ s, t.session? h = some s ∧ Session.Missed p s .poll

/-- Nobody commits but the connection itself, and it does not write the place. -/
def Unnoticed (h : Nat) (p : Place) (t : Site) (e : Event) : Prop :=
  (∀ s s', t.session? h = some s → (t.step e).session? h = some s' → s'.current = s.current) ∧
    ∀ v, e ≠ .set h p v

theorem seen_eq_poll {t : Site} {h : Nat} {e : Event} :
    t.seen h e = some .poll ↔ e = .poll h := by
  cases e <;> grind [seen]

theorem seen_eq_set {t : Site} {h : Nat} {e : Event} {p : Place} {v : Json} :
    t.seen h e = some (.set p v) ↔ e = .set h p v := by
  cases e <;> grind [seen]

/-- A row is lost after an event if a poll missed it, or if it was lost and went unnoticed. -/
theorem Sound.lost_step {t : Site} (sound : t.Sound) (h : Nat) (p : Place) (e : Event) :
    Lost h p (t.step e) ↔ Missed h p t e ∨ Lost h p t ∧ Unnoticed h p t e := by
  cases hs : t.session? h with
  | none =>
    constructor
    · rintro ⟨s', hs', lost⟩
      rcases session?_origin hs' with ⟨s, found⟩ | ⟨-, opened⟩
      · rw [hs] at found
        cases found
      · exact absurd (Session.agrees_of_open? opened p) lost.2
    · rintro (⟨-, s, found, -⟩ | ⟨⟨s, found, -⟩, -⟩) <;> rw [hs] at found <;> cases found
  | some s =>
    obtain ⟨s', hs', seen⟩ := session?_step hs e
    have lost : Lost h p t ↔ Session.Lost p s := by simp [Lost, hs]
    have lost' : Lost h p (t.step e) ↔ Session.Lost p s' := by simp [Lost, hs']
    have missed : Missed h p t e ↔ e = .poll h ∧ Session.Missed p s .poll := by simp [Missed, hs]
    have unnoticed : Unnoticed h p t e ↔ s'.current = s.current ∧ ∀ v, e ≠ .set h p v := by
      simp [Unnoticed, hs, hs']
    rw [lost, lost', missed, unnoticed]
    cases sees : t.seen h e with
    | none =>
      rw [sees] at seen
      have elsewhere : e ≠ .poll h := fun here => by
        rw [seen_eq_poll.2 here] at sees
        cases sees
      have unwritten (v : Json) : e ≠ .set h p v := fun here => by
        rw [seen_eq_set.2 here] at sees
        cases sees
      simp [seen.lost_iff, seen.current, elsewhere, unwritten]
    | some x =>
      rw [sees] at seen
      have polls : e = .poll h ↔ x = .poll := by
        rw [← seen_eq_poll, sees, Option.some.injEq]
      have writes (v : Json) : e = .set h p v ↔ x = .set p v := by
        rw [← seen_eq_set, sees, Option.some.injEq]
      have single := (sound.coherent h s hs).lost_step p x
      simp [seen, single, polls, writes, Session.Missed, Session.Unnoticed]

/-- A row is lost exactly if a poll missed it, and it went unnoticed since. -/
theorem lost_iff_since {d : Database} (text : d.ForeignText) {es : List Event}
    (textual : ∀ e ∈ es, e.Textual) (h : Nat) (p : Place) :
    Lost h p ((⟨d, []⟩ : Site).after es) ↔
      Run.Since step (Missed h p) (Unnoticed h p) ⟨d, []⟩ es :=
  Run.iff_since Sound (fun _ e => e.Textual) (fun _ _ ht he => ht.step he)
    (fun _ e ht _ => ht.lost_step h p e) (Sound.start text) (fun lost => nomatch lost.choose_spec.1)
    (Run.throughout_of_mem textual _)

end Site

end Reroute
