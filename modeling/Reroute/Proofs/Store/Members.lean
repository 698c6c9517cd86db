import Reroute.Proofs.Rule.Stored
import Reroute.Proofs.Run
import Reroute.Proofs.Store.Listening

/-!
# Stores in order

Whatever happens to the stores of a connection, each of them works, has settings that can be saved,
and listens under a number of its own.

## Main definitions

* `System.Readable` — an event that commits only texts, and saves only what is read back.
* `System.Event.Commits` — an event by which another connection commits.
* `System.Coherent` — what holds at all times.

## Main results

* `System.openOn_cases`, `System.act_member`, `System.step_deliver` — what an event does.
* `System.Coherent.step` — every event keeps a system coherent.
* `System.Coherent.noted_step` — the version of the rows stays noted until others commit.
-/

namespace Reroute.System

/-! ## Events -/

/-- Only texts are committed, and what is saved is read back. -/
def Readable (t : System) : Event → Prop
  | .session e => e.Textual ∧ e.Legible
  | .act k a => a.Saves → ∀ s i, t.stores[k]? = some (s, i) →
    let o := (⟨s, t.session, t.ids⟩ : Opened Session).act a
    Json.read? o.store.settings.encode.print = some o.store.settings.encode
  | _ => True

/-- Another connection commits. -/
def Event.Commits : Event → Prop
  | .session (.upsert _ _) | .session (.delete _) => True
  | _ => False

/-! ## What holds at all times -/

/-- A store works, its settings can be saved, and it listens. -/
structure Member (t : Session) (s : Store) (i : Nat) : Prop where
  links : s.links.Sound
  settings : s.settings.Sound
  tells : t.Tells i

/-- The session is in order, and so are all stores, which listen under different numbers. -/
structure Coherent (t : System) : Prop where
  healthy : t.session.Healthy
  member : ∀ {k : Nat} {s : Store} {i : Nat}, t.stores[k]? = some (s, i) → Member t.session s i
  distinct : ∀ {j k : Nat} {r s : Store} {i : Nat}, t.stores[j]? = some (r, i) →
    t.stores[k]? = some (s, i) → j = k

theorem coherent_start {s : Session} (h : s.Healthy) (ids : Supply) : (start s ids).Coherent where
  healthy := h
  member h := by cases h
  distinct h := by cases h

/-- Rules that are saved are read back. -/
theorem writes_rules (s : Session) (p : Place) (rules : List Rule) :
    s.Writes (s.set p (Rule.encodeList rules)) :=
  .inr ⟨p, Rule.encodeList rules, Rule.read?_print_encodeList rules, rfl⟩

/-- A store that was opened has the values that are stored. -/
theorem openOn_cases {links : Links} (sound : links.Sound) (s : Session) (ids : Supply) :
    let o := Opened.openOn links s ids
    s.Writes o.medium ∧ o.store.links = links ∧
      ∀ τ : Topic, τ.part o.store = τ.normalize (τ.stored o.medium links) := by
  obtain ⟨medium, links, parts⟩ := Opened.openOn_cases Session.puts sound.config s ids
  refine ⟨?_, links, parts⟩
  rcases medium with same | ⟨rules, saved⟩
  · exact .inl same
  · exact saved ▸ writes_rules s _ rules

/-- What an operation does to the store and the session. -/
theorem act_member {o : Opened Session} {i : Nat} (healthy : o.medium.Healthy)
    (h : Member o.medium o.store i) {a : Act}
    (readable : a.Saves → Json.read? (o.act a).store.settings.encode.print =
      some (o.act a).store.settings.encode) :
    o.medium.Writes (o.act a).medium ∧ (o.act a).store.links = o.store.links ∧
      Member (o.act a).medium (o.act a).store i := by
  rcases Opened.act_cases Session.puts h.links.config a with
    ⟨-, rules, ids, ha | ha⟩ | ⟨τ, rfl⟩ | ⟨saves, settings, ha, sound⟩
  · rw [ha]
    exact ⟨.inl rfl, rfl, h.links, h.settings, h.tells⟩
  · rw [ha]
    have writes := writes_rules o.medium (Opened.rulesPlace o.store.links) rules
    exact ⟨writes, rfl, h.links, h.settings, writes.moves.tells healthy h.tells⟩
  · have settings : (τ.load o).store.settings.Sound := by
      cases τ with
      | metrics => exact h.settings
      | settings => exact Settings.normalize_sound _
    have medium : (o.act (.load τ)).medium = o.medium := τ.load_medium o
    have links : (o.act (.load τ)).store.links = o.store.links := τ.load_links o
    exact ⟨.inl medium, links, links ▸ h.links, settings, medium ▸ h.tells⟩
  · have writes : o.medium.Writes
        (o.medium.set (Topic.settings.place o.store.links) settings.encode) := by
      refine .inr ⟨Topic.settings.place o.store.links, settings.encode, ?_, rfl⟩
      have read := readable saves
      rw [ha] at read
      exact read
    rw [ha]
    exact ⟨writes, rfl, h.links, sound h.settings, writes.moves.tells healthy h.tells⟩

/-- Other stores are as they were. -/
theorem Member.moves {s t : Session} (hs : s.Healthy) {r : Store} {i : Nat} (h : Member s r i)
    (m : s.Moves t) : Member t r i :=
  ⟨h.links, h.settings, m.tells hs h.tells⟩

/-! ### The stores after an event -/

theorem step_act_none {t : System} {j : Nat} (h : t.stores[j]? = none) (a : Act) :
    t.step (.act j a) = t := by
  simp only [step, h]

theorem step_deliver_none {t : System} {j : Nat} (h : t.stores[j]? = none) :
    t.step (.deliver j) = t := by
  simp only [step, h]

theorem step_act {t : System} {j : Nat} {s : Store} {i : Nat} (h : t.stores[j]? = some (s, i))
    (a : Act) :
    t.step (.act j a) =
      let o := (⟨s, t.session, t.ids⟩ : Opened Session).act a
      ⟨o.medium, o.ids, t.stores.set j (o.store, i)⟩ := by
  simp only [step, h]

theorem step_deliver {t : System} {j : Nat} {s : Store} {i : Nat} (h : t.stores[j]? = some (s, i))
    (tells : t.session.Tells i) :
    (t.session.waiting i = [] ∧ t.step (.deliver j) = t) ∨
    ∃ c cs, t.session.waiting i = c :: cs ∧
      t.step (.deliver j) = ⟨t.session.withFeed (t.session.connection.feed.next i).2, t.ids,
        t.stores.set j ((s.handle c).2, i)⟩ := by
  cases hw : t.session.waiting i with
  | nil =>
    refine .inl ⟨rfl, ?_⟩
    have queue := hw ▸ tells.listens
    simp only [step, h, Feed.next_of_nil queue]
    by_cases listed : i ∈ t.session.connection.feed.listed <;>
      simp only [listed, if_true, if_false]
  | cons c cs =>
    refine .inr ⟨c, cs, rfl, ?_⟩
    have queue := hw ▸ tells.listens
    simp only [step, h, Feed.next, queue]

/-- A coherent system remains so when one of its stores is replaced. -/
theorem Coherent.replace {t : System} (h : t.Coherent) {j : Nat} {s s' : Store} {i : Nat}
    (hj : t.stores[j]? = some (s, i)) {session : Session} (ids : Supply)
    (healthy : session.Healthy) (self : Member session s' i)
    (others : ∀ k r l, k ≠ j → t.stores[k]? = some (r, l) → Member session r l) :
    Coherent ⟨session, ids, t.stores.set j (s', i)⟩ := by
  refine ⟨healthy, fun {k r l} hk => ?_, fun {k m r r' l} hk hm => ?_⟩
  · rcases Store.of_getElem?_set hk with ⟨-, hx⟩ | ⟨other, hk⟩
    · cases hx
      exact self
    · exact others k r l other hk
  · obtain ⟨q, hq⟩ := Store.listener_of_set hj hk
    obtain ⟨q', hq'⟩ := Store.listener_of_set hj hm
    exact h.distinct hq hq'

/-- Other listeners are not affected by one that takes a change. -/
theorem Coherent.next_other {t : System} (h : t.Coherent) {j k : Nat} {s r : Store} {i l : Nat}
    (hj : t.stores[j]? = some (s, i)) (hk : t.stores[k]? = some (r, l)) (other : k ≠ j) :
    (t.session.withFeed (t.session.connection.feed.next i).2).connection.feed.queue? l =
      t.session.connection.feed.queue? l := by
  refine Session.queue?_next_other t.session fun same => other ?_
  subst same
  exact h.distinct hk hj

/-- Every event keeps a system coherent. -/
theorem Coherent.step {t : System} (h : t.Coherent) {e : Event} (he : t.Readable e) :
    (t.step e).Coherent := by
  cases e with
  | join shared =>
    obtain ⟨writes, links, parts⟩ := openOn_cases (Links.working_sound shared) t.session t.ids
    have healthy := writes.moves.healthy h.healthy
    have old : ∀ {k : Nat} {r : Store} {l : Nat}, t.stores[k]? = some (r, l) →
        Member (t.step (.join shared)).session r l ∧
          l ≠ (Opened.openOn (.working shared) t.session t.ids).medium.subscribe.1 := by
      intro k r l hk
      have member := (h.member hk).moves h.healthy writes.moves
      obtain ⟨other, queue⟩ := Session.queue?_subscribe_other member.tells.listens
      exact ⟨⟨member.links, member.settings, member.tells.congr rfl queue⟩, other⟩
    refine ⟨⟨healthy.coherent.subscribe, healthy.text, healthy.upToDate⟩,
      fun {k r l} hk => ?_, fun {k m r r' l} hk hm => ?_⟩
    · rcases Store.of_getElem?_concat hk with ⟨-, hx⟩ | hk
      · cases hx
        refine ⟨?_, ?_, Session.tells_subscribe _⟩
        · rw [links]
          exact Links.working_sound shared
        · have settings : (Opened.openOn (.working shared) t.session t.ids).store.settings =
            .normalize _ := parts .settings
          rw [settings]
          exact Settings.normalize_sound _
      · exact (old hk).1
    · rcases Store.of_getElem?_concat hk with ⟨rfl, hx⟩ | hk <;>
        rcases Store.of_getElem?_concat hm with ⟨rfl, hy⟩ | hm
      · rfl
      · cases hx
        exact absurd rfl (old hm).2
      · cases hy
        exact absurd rfl (old hk).2
      · exact h.distinct hk hm
  | act j a =>
    cases hj : t.stores[j]? with
    | none =>
      rw [step_act_none hj]
      exact h
    | some x =>
      obtain ⟨s, i⟩ := x
      obtain ⟨writes, -, self⟩ := act_member (o := ⟨s, t.session, t.ids⟩) h.healthy (h.member hj)
        fun saves => he saves s i hj
      rw [step_act hj]
      exact h.replace hj _ (writes.moves.healthy h.healthy) self
        fun k r l _ hk => (h.member hk).moves h.healthy writes.moves
  | session e =>
    have moves : t.session.Moves (t.session.step e) := .inr ⟨e, he.1, he.2, rfl⟩
    exact ⟨moves.healthy h.healthy, fun hk => (h.member hk).moves h.healthy moves, h.distinct⟩
  | deliver j =>
    cases hj : t.stores[j]? with
    | none =>
      rw [step_deliver_none hj]
      exact h
    | some x =>
      obtain ⟨s, i⟩ := x
      have member := h.member hj
      rcases step_deliver hj member.tells with ⟨-, same⟩ | ⟨c, cs, waiting, delivered⟩
      · rw [same]
        exact h
      · rw [delivered]
        have links : (s.handle c).2.links = s.links := Store.handle_links s c
        refine h.replace hj _ (h.healthy.withFeed (h.healthy.coherent.sound.next i))
          ⟨links ▸ member.links, Store.handle_sound member.settings c,
            (member.tells.next waiting).1⟩
          fun k r l other hk => ?_
        have rest := h.member hk
        exact ⟨rest.links, rest.settings,
          rest.tells.congr rfl (h.next_other hj hk other)⟩

/-! ## Runs -/

theorem Coherent.after {t : System} (h : t.Coherent) {es : List Event}
    (hes : Run.Throughout System.step Readable t es) : (t.after es).Coherent := by
  induction es generalizing t with
  | nil => exact h
  | cons e es ih => exact ih (h.step hes.1) hes.2

/-- The noted version stays that of the rows until others commit. -/
theorem Coherent.noted_step {t : System} (h : t.Coherent) {e : Event} (he : t.Readable e)
    (quiet : ¬e.Commits) (noted : t.session.connection.noted = t.session.current) :
    (t.step e).session.connection.noted = (t.step e).session.current := by
  cases e with
  | join shared =>
    obtain ⟨writes, -⟩ := openOn_cases (Links.working_sound shared) t.session t.ids
    exact writes.noted noted
  | act j a =>
    cases hj : t.stores[j]? with
    | none =>
      rw [step_act_none hj]
      exact noted
    | some x =>
      obtain ⟨s, i⟩ := x
      obtain ⟨writes, -⟩ := act_member (o := ⟨s, t.session, t.ids⟩) h.healthy (h.member hj)
        fun saves => he saves s i hj
      rw [step_act hj]
      exact writes.noted noted
  | session e =>
    cases e with
    | set p v =>
      have writes : t.session.Writes (t.session.set p v) := .inr ⟨p, v, he.2, rfl⟩
      exact writes.noted noted
    | upsert row c => exact absurd trivial quiet
    | delete row => exact absurd trivial quiet
    | poll => exact Session.noted_poll t.session
  | deliver j =>
    cases hj : t.stores[j]? with
    | none =>
      rw [step_deliver_none hj]
      exact noted
    | some x =>
      obtain ⟨s, i⟩ := x
      rcases step_deliver hj (h.member hj).tells with ⟨-, same⟩ | ⟨c, cs, -, delivered⟩
      · rw [same]
        exact noted
      · rw [delivered]
        exact noted

theorem Coherent.noted_after {t : System} (h : t.Coherent) {es : List Event}
    (hes : Run.Throughout System.step Readable t es) (quiet : ∀ e ∈ es, ¬e.Commits)
    (noted : t.session.connection.noted = t.session.current) :
    (t.after es).session.connection.noted = (t.after es).session.current := by
  induction es generalizing t with
  | nil => exact noted
  | cons e es ih =>
    have now := h.noted_step hes.1 (quiet e List.mem_cons_self) noted
    exact ih (h.step hes.1) hes.2 (fun f hf => quiet f (List.mem_cons_of_mem e hf)) now

end Reroute.System
