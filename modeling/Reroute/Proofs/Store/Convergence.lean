import Mathlib.Control.Monad.Basic
import Reroute.Proofs.Store.Members

/-!
# Which views converge

Metrics and settings of a store are current again once the rows are polled and all changes are
delivered, unless the store loaded a value that the connection did not know. Such a value is not in
the snapshot. When it is taken back before the next poll, that poll finds no difference, and the
store is not told.

## Main definitions

* `System.Overlooked`, `System.Unheard` — how a copy becomes stale, and how it stays so.

## Main results

* `System.Coherent.stale_step` — how an event makes a copy stale.
* `System.current_iff` — which copies are current.
* `System.exists_stale_copy` — a copy that is not.
-/

namespace Reroute.System

/-! ## Stale copies -/

/-- A store loads a topic, itself or as it is opened. -/
def Loads (k : Nat) (τ : Topic) (t : System) : Event → Prop
  | .join _ => k = t.stores.length
  | .act j a => k = j ∧ a = .load τ
  | _ => False

/-- A store loads or saves a topic by an operation of its own. -/
def Touches (k : Nat) (τ : Topic) : Event → Prop
  | .act j a => k = j ∧ a.Touches τ
  | _ => False

/-- A store loads another value than the connection knows, and no change of it waits. -/
def Overlooked (k : Nat) (τ : Topic) (t : System) (e : Event) : Prop :=
  Loads k τ t e ∧ ∃ s i, (t.step e).stores[k]? = some (s, i) ∧
    (t.step e).session.Silent i (τ.place s.links) ∧
    τ.normalize (τ.stored (t.step e).session s.links) ≠
      τ.normalize (τ.known (t.step e).session s.links)

/-- A store neither loads nor saves a topic, and no change of it waits. -/
def Unheard (k : Nat) (τ : Topic) (t : System) (e : Event) : Prop :=
  ¬Touches k τ e ∧ ∃ s i, (t.step e).stores[k]? = some (s, i) ∧
    (t.step e).session.Silent i (τ.place s.links)

/-- The copy of a store is stale. -/
def StaleAt (k : Nat) (τ : Topic) (t : System) : Prop :=
  ∃ s i, t.stores[k]? = some (s, i) ∧ Stale t.session s i τ

/-! ## How copies become stale -/

/-- An event by which a store neither loads nor saves a topic, and that leaves its copy as it is,
makes the copy stale only if it was, and if no change of it comes to wait. -/
theorem stale_frame {t : System} {e : Event} {k : Nat} {τ : Topic} (loads : ¬Loads k τ t e)
    (touches : ¬Touches k τ e)
    (entry : ∀ s i, t.stores[k]? = some (s, i) → ∃ s', (t.step e).stores[k]? = some (s', i) ∧
      s'.links = s.links ∧ τ.part s' = τ.part s ∧
      (Stale (t.step e).session s i τ ↔
        Stale t.session s i τ ∧ (t.step e).session.Silent i (τ.place s.links)))
    (absent : t.stores[k]? = none → (t.step e).stores[k]? = none) :
    StaleAt k τ (t.step e) ↔ Overlooked k τ t e ∨ StaleAt k τ t ∧ Unheard k τ t e := by
  cases hk : t.stores[k]? with
  | none =>
    constructor
    · rintro ⟨s, i, hs, -⟩
      rw [absent hk] at hs
      cases hs
    · rintro (⟨loaded, -⟩ | ⟨⟨s, i, hs, -⟩, -⟩)
      · exact absurd loaded loads
      · rw [hk] at hs
        cases hs
  | some x =>
    obtain ⟨s, i⟩ := x
    obtain ⟨s', hs', links, part, stale⟩ := entry s i hk
    constructor
    · rintro ⟨r, l, hr, h⟩
      obtain ⟨rfl, rfl⟩ := Store.entry_unique hs' hr
      obtain ⟨before, silent⟩ := stale.1 ((stale_congr links part).1 h)
      exact .inr ⟨⟨s, i, hk, before⟩, touches, s', i, hs', links ▸ silent⟩
    · rintro (⟨loaded, -⟩ | ⟨⟨r, l, hr, h⟩, -, r', l', hr', silent⟩)
      · exact absurd loaded loads
      · obtain ⟨rfl, rfl⟩ := Store.entry_unique hk hr
        obtain ⟨rfl, rfl⟩ := Store.entry_unique hs' hr'
        exact ⟨s', i, hs', (stale_congr links part).2 (stale.2 ⟨h, links ▸ silent⟩)⟩

/-- A copy that was just loaded is stale if the connection does not know it. -/
theorem stale_loaded {t : System} {e : Event} {k : Nat} {τ : Topic} {s : Store} {i : Nat}
    (loads : Loads k τ t e) (absent : ¬(StaleAt k τ t ∧ Unheard k τ t e))
    (entry : (t.step e).stores[k]? = some (s, i))
    (part : τ.part s = τ.normalize (τ.stored (t.step e).session s.links)) :
    StaleAt k τ (t.step e) ↔ Overlooked k τ t e ∨ StaleAt k τ t ∧ Unheard k τ t e := by
  constructor
  · rintro ⟨r, l, hr, h⟩
    obtain ⟨rfl, rfl⟩ := Store.entry_unique entry hr
    exact .inl ⟨loads, s, i, entry, h.silent, part ▸ h.differs⟩
  · rintro (⟨-, r, l, hr, silent, differs⟩ | h)
    · obtain ⟨rfl, rfl⟩ := Store.entry_unique entry hr
      exact ⟨s, i, entry, silent, part ▸ differs⟩
    · exact absurd h absent

/-- A copy is renewed if it is what the connection knows as long as no change of it waits. -/
theorem stale_renewed {t : System} {e : Event} {k : Nat} {τ : Topic} {s : Store} {i : Nat}
    (loads : ¬Loads k τ t e) (absent : ¬(StaleAt k τ t ∧ Unheard k τ t e))
    (entry : (t.step e).stores[k]? = some (s, i))
    (renewed : (t.step e).session.Silent i (τ.place s.links) →
      τ.part s = τ.normalize (τ.known (t.step e).session s.links)) :
    StaleAt k τ (t.step e) ↔ Overlooked k τ t e ∨ StaleAt k τ t ∧ Unheard k τ t e := by
  constructor
  · rintro ⟨r, l, hr, h⟩
    obtain ⟨rfl, rfl⟩ := Store.entry_unique entry hr
    exact absurd (renewed h.silent) h.differs
  · rintro (⟨loaded, -⟩ | h)
    · exact absurd loaded loads
    · exact absurd h absent

theorem stale_join {t : System} (h : t.Coherent) (shared : Bool) (k : Nat) (τ : Topic) :
    StaleAt k τ (t.step (.join shared)) ↔
      Overlooked k τ t (.join shared) ∨ StaleAt k τ t ∧ Unheard k τ t (.join shared) := by
  obtain ⟨writes, links, parts⟩ := openOn_cases (Links.working_sound shared) t.session t.ids
  by_cases hk : k = t.stores.length
  · have entry : (t.step (.join shared)).stores[k]? = some
        ((Opened.openOn (.working shared) t.session t.ids).store,
          (Opened.openOn (.working shared) t.session t.ids).medium.subscribe.1) := by
      rw [hk]
      exact List.getElem?_concat_length
    refine stale_loaded hk ?_ entry ?_
    · rintro ⟨⟨s, i, hs, -⟩, -⟩
      rw [hk, List.getElem?_eq_none (Nat.le_refl _)] at hs
      cases hs
    · rw [links, parts τ]
      rfl
  · refine stale_frame hk id (fun s i hs => ⟨s, ?_, rfl, rfl, ?_⟩) fun none => ?_
    · obtain ⟨lt, -⟩ := List.getElem?_eq_some_iff.1 hs
      exact (List.getElem?_append_left lt).trans hs
    · have tells := (h.member hs).tells
      have tells' := writes.moves.tells h.healthy tells
      obtain ⟨-, queue⟩ := Session.queue?_subscribe_other tells'.listens
      have silent := Session.silent_congr (t := (Opened.openOn (.working shared) t.session
        t.ids).medium) (u := (t.step (.join shared)).session) queue (τ.place s.links)
      have stale := stale_of_silent_iff (by rfl) silent
      rw [stale, writes.moves.stale_iff h.healthy tells, silent, and_assoc, and_self_iff]
    · have le := List.getElem?_eq_none_iff.1 none
      refine List.getElem?_eq_none ?_
      have grown : (t.step (.join shared)).stores.length = t.stores.length + 1 :=
        List.length_append
      omega

/-- An operation of another store, and an event at the connection. -/
theorem stale_moves {t : System} (h : t.Coherent) {e : Event} {k : Nat} {τ : Topic}
    (loads : ¬Loads k τ t e) (touches : ¬Touches k τ e)
    (moves : t.session.Moves (t.step e).session) (same : (t.step e).stores[k]? = t.stores[k]?) :
    StaleAt k τ (t.step e) ↔ Overlooked k τ t e ∨ StaleAt k τ t ∧ Unheard k τ t e := by
  refine stale_frame loads touches (fun s i hs => ⟨s, same.trans hs, rfl, rfl, ?_⟩) same.trans
  exact moves.stale_iff h.healthy (h.member hs).tells s τ

/-- An operation of a store makes its own copy stale, renews it, or leaves it as it is. -/
theorem stale_act_self {t : System} (h : t.Coherent) {k : Nat} {s : Store} {i : Nat}
    (hk : t.stores[k]? = some (s, i)) {a : Act} (he : t.Readable (.act k a)) (τ : Topic) :
    StaleAt k τ (t.step (.act k a)) ↔
      Overlooked k τ t (.act k a) ∨ StaleAt k τ t ∧ Unheard k τ t (.act k a) := by
  have member := h.member hk
  have readable := fun saves => he saves s i hk
  have stepped := step_act hk a
  obtain ⟨o, ho⟩ : ∃ o : Opened Session, o = ⟨s, t.session, t.ids⟩ := ⟨_, rfl⟩
  have store : o.store = s := congrArg Opened.store ho
  have session : o.medium = t.session := congrArg Opened.medium ho
  rw [← ho] at stepped readable
  obtain ⟨writes, links, -⟩ := act_member (session ▸ h.healthy) (store ▸ session ▸ member) readable
  have entry : (t.step (.act k a)).stores[k]? = some ((o.act a).store, i) := by
    rw [stepped]
    exact List.getElem?_set_self (List.getElem?_eq_some_iff.1 hk).1
  have medium : (t.step (.act k a)).session = (o.act a).medium := by rw [stepped]
  have touched : a.Touches τ → ¬(StaleAt k τ t ∧ Unheard k τ t (.act k a)) :=
    fun touches unheard => unheard.2.1 ⟨rfl, touches⟩
  by_cases touches : a.Touches τ
  · rcases touches with rfl | ⟨rfl, saves⟩
    · refine stale_loaded ⟨rfl, rfl⟩ (touched (.inl rfl)) entry ?_
      rw [medium, links]
      have same : (o.act (.load τ)).medium = o.medium := τ.load_medium o
      rw [same]
      exact τ.part_load o
    · obtain ⟨written, sound⟩ := Opened.act_of_saves Session.puts
        (store ▸ member.links.config) saves
      refine stale_renewed ?_ (touched (.inr ⟨rfl, saves⟩)) entry fun _ => ?_
      · rintro ⟨-, rfl⟩
        exact saves
      · have known : Topic.settings.known (o.act a).medium (o.act a).store.links =
            (o.act a).store.settings.encode := by
          rw [links, written, Topic.known, Session.view_set _ _ _ (readable saves), if_pos rfl]
          rfl
        rw [medium, known]
        exact (Settings.normalize_encode (sound (store ▸ member.settings))).symm
  · refine stale_frame (fun loads => touches (.inl loads.2)) (fun h => touches h.2) ?_ ?_
    · intro r l hr
      obtain ⟨rfl, rfl⟩ := Store.entry_unique hk hr
      refine ⟨(o.act a).store, entry, store ▸ links, ?_, ?_⟩
      · rw [Opened.part_act Session.puts (store ▸ member.links.config) touches, store]
      · rw [medium]
        exact (session ▸ writes).moves.stale_iff h.healthy member.tells s τ
    · intro none
      rw [hk] at none
      cases none

theorem stale_act {t : System} (h : t.Coherent) {j : Nat} {a : Act} (he : t.Readable (.act j a))
    (k : Nat) (τ : Topic) :
    StaleAt k τ (t.step (.act j a)) ↔
      Overlooked k τ t (.act j a) ∨ StaleAt k τ t ∧ Unheard k τ t (.act j a) := by
  cases hj : t.stores[j]? with
  | none =>
    have same : t.step (.act j a) = t := step_act_none hj a
    by_cases hk : k = j
    · subst hk
      have none : ∀ u s i, u = t → ¬u.stores[k]? = some (s, i) := by
        rintro u s i rfl hs
        rw [hj] at hs
        cases hs
      constructor
      · rintro ⟨s, i, hs, -⟩
        exact absurd hs (none _ s i same)
      · rintro (⟨-, s, i, hs, -⟩ | ⟨⟨s, i, hs, -⟩, -⟩)
        · exact absurd hs (none _ s i same)
        · exact absurd hs (none t s i rfl)
    · exact stale_moves h (fun loads => hk loads.1) (fun touches => hk touches.1)
        (.inl (congrArg System.session same)) (by rw [same])
  | some x =>
    obtain ⟨s, i⟩ := x
    by_cases hk : k = j
    · subst hk
      exact stale_act_self h hj he τ
    · obtain ⟨writes, -⟩ := act_member (o := ⟨s, t.session, t.ids⟩) h.healthy (h.member hj)
        fun saves => he saves s i hj
      have stepped := step_act hj a
      refine stale_moves h (fun loads => hk loads.1) (fun touches => hk touches.1) ?_ ?_
      · rw [stepped]
        exact writes.moves
      · rw [stepped]
        exact List.getElem?_set_ne (Ne.symm hk)

/-- A change that a store takes renews the copy of its topic, and leaves others as they are. -/
theorem stale_deliver_self {t : System} (h : t.Coherent) {k : Nat} {s : Store} {i : Nat}
    (hk : t.stores[k]? = some (s, i)) {c : Change} {cs : List Change}
    (waiting : t.session.waiting i = c :: cs)
    (delivered : t.step (.deliver k) = ⟨t.session.withFeed (t.session.connection.feed.next i).2,
      t.ids, t.stores.set k ((s.handle c).2, i)⟩) (τ : Topic) :
    StaleAt k τ (t.step (.deliver k)) ↔
      Overlooked k τ t (.deliver k) ∨ StaleAt k τ t ∧ Unheard k τ t (.deliver k) := by
  obtain ⟨-, left, last⟩ := (h.member hk).tells.next waiting
  have entry : (t.step (.deliver k)).stores[k]? = some ((s.handle c).2, i) := by
    rw [delivered]
    exact List.getElem?_set_self (List.getElem?_eq_some_iff.1 hk).1
  have links : (s.handle c).2.links = s.links := Store.handle_links s c
  obtain ⟨taken, kept⟩ := τ.part_handle s c
  by_cases hc : c.place = τ.place s.links
  · refine stale_renewed id ?_ entry fun silent => ?_
    · rintro ⟨⟨r, l, hr, stale⟩, -⟩
      obtain ⟨rfl, rfl⟩ := Store.entry_unique hk hr
      refine stale.silent ?_
      rw [waiting, ← hc]
      exact List.mem_cons_self
    · rw [delivered, links] at silent
      have final : c.place ∉ cs.map Change.place := by
        rw [hc, ← left]
        exact silent
      rw [taken hc, last final, hc, delivered, links]
      rfl
  · refine stale_frame id id (fun r l hr => ?_) fun none => ?_
    · obtain ⟨rfl, rfl⟩ := Store.entry_unique hk hr
      refine ⟨_, entry, links, kept hc, ?_⟩
      rw [delivered]
      refine stale_of_silent_iff rfl ?_
      rw [Session.Silent, Session.Silent, left, waiting, List.map_cons, List.mem_cons]
      simp [Ne.symm hc]
    · rw [hk] at none
      cases none

theorem stale_deliver {t : System} (h : t.Coherent) (j k : Nat) (τ : Topic) :
    StaleAt k τ (t.step (.deliver j)) ↔
      Overlooked k τ t (.deliver j) ∨ StaleAt k τ t ∧ Unheard k τ t (.deliver j) := by
  have unchanged : t.step (.deliver j) = t → (StaleAt k τ (t.step (.deliver j)) ↔
      Overlooked k τ t (.deliver j) ∨ StaleAt k τ t ∧ Unheard k τ t (.deliver j)) := by
    intro same
    exact stale_moves h id id (.inl (congrArg System.session same)) (by rw [same])
  cases hj : t.stores[j]? with
  | none => exact unchanged (step_deliver_none hj)
  | some x =>
    obtain ⟨s, i⟩ := x
    rcases step_deliver hj (h.member hj).tells with ⟨-, same⟩ | ⟨c, cs, waiting, delivered⟩
    · exact unchanged same
    · by_cases hk : k = j
      · subst hk
        exact stale_deliver_self h hj waiting delivered τ
      · refine stale_frame id id (fun r l hr => ⟨r, ?_, rfl, rfl, ?_⟩) fun none => ?_
        · rw [delivered]
          exact (List.getElem?_set_ne (Ne.symm hk)).trans hr
        · rw [delivered]
          exact stale_of_silent_iff rfl (Session.silent_congr (h.next_other hj hr hk) _)
        · rw [delivered]
          exact (List.getElem?_set_ne (Ne.symm hk)).trans none

/-- A copy is stale after an event if the store overlooked a value at it, or if it was stale before
and the store heard nothing of it. -/
theorem Coherent.stale_step {t : System} (h : t.Coherent) {e : Event} (he : t.Readable e) (k : Nat)
    (τ : Topic) :
    StaleAt k τ (t.step e) ↔ Overlooked k τ t e ∨ StaleAt k τ t ∧ Unheard k τ t e := by
  cases e with
  | join shared => exact stale_join h shared k τ
  | act j a => exact stale_act h he k τ
  | session e => exact stale_moves h id id (.inr ⟨e, he.1, he.2, rfl⟩) rfl
  | deliver j => exact stale_deliver h j k τ

/-! ## Runs -/

/-- When others have committed nothing since the last poll, and all changes are delivered to a
store, its copy of a topic is what it would load, unless at some event it loaded a value that the
connection did not know, with no change of the topic waiting, and since then it has neither loaded
nor saved the topic and has got no change of it. -/
theorem current_iff {d : Database} {s : Session} (opened : Session.open? d = .ok s) (ids : Supply)
    {before rest : List Event}
    (readable : Run.Throughout step Readable (start s ids) (before ++ .session .poll :: rest))
    (quiet : ∀ e ∈ rest, ¬e.Commits) (k : Nat) {r : Store} {i : Nat} :
    let t := (start s ids).after (before ++ .session .poll :: rest)
    t.stores[k]? = some (r, i) → t.session.connection.feed.queue? i = some [] →
      ∀ τ : Topic, τ.part r = τ.part (τ.load (⟨r, t.session, t.ids⟩ : Opened Session)).store ↔
        ¬Run.Since step (Overlooked k τ) (Unheard k τ) (start s ids)
          (before ++ .session .poll :: rest) := by
  intro t entry delivered τ
  have coherent₀ : (start s ids).Coherent :=
    coherent_start (Session.healthy_of_open? opened) ids
  have coherent : t.Coherent := coherent₀.after readable
  have noted : t.session.connection.noted = t.session.current := by
    obtain ⟨readable₀, -, readable₁⟩ := Run.throughout_append.1 readable
    have polled : ((start s ids).after before).Coherent := coherent₀.after readable₀
    have all : t = (((start s ids).after before).step (.session .poll)).after rest :=
      List.foldl_append
    rw [all]
    exact (polled.step (e := .session .poll) ⟨trivial, trivial⟩).noted_after readable₁ quiet
      (Session.noted_poll _)
  have stale : StaleAt k τ t ↔ Run.Since step (Overlooked k τ) (Unheard k τ) (start s ids)
      (before ++ .session .poll :: rest) := by
    refine Run.iff_since Coherent Readable (fun t e ht he => ht.step he)
      (fun t e ht he => ht.stale_step he k τ) coherent₀ ?_ readable
    rintro ⟨r, i, hr, -⟩
    cases hr
  have stored : τ.stored t.session r.links = τ.known t.session r.links :=
    Topic.stored_eq_known (coherent.member entry).links (coherent.healthy.upToDate noted _)
  have silent : t.session.Silent i (τ.place r.links) := by
    rw [Session.Silent, Session.waiting_eq delivered]
    exact List.not_mem_nil
  rw [← stale, Topic.part_load, stored]
  constructor
  · rintro current ⟨r', i', entry', old⟩
    obtain ⟨rfl, rfl⟩ := Store.entry_unique entry entry'
    exact old.differs current
  · intro fresh
    exact Classical.byContradiction fun differs => fresh ⟨r, i, entry, silent, differs⟩

/-- A store loads a rate that was not polled, and the row is taken out before the poll. -/
theorem exists_stale_copy :
    ¬∀ (d : Database) (s : Session) (ids : Supply) (before : List Event) (n : Nat),
      Session.open? d = .ok s →
      Run.Throughout step Readable (start s ids) (before ++ [.session .poll]) →
      ((start s ids).after before).session.poll.1 = .ok n →
      let t := (start s ids).after (before ++ [.session .poll])
      (∀ x ∈ t.stores, t.session.connection.feed.queue? x.2 = some []) →
      ∀ x ∈ t.stores, ∀ τ : Topic,
        τ.part x.1 = τ.part (τ.load (⟨x.1, t.session, t.ids⟩ : Opened Session)).store := by
  intro claim
  let s : Session := ⟨.empty, ⟨[], 0, 0, .empty⟩⟩
  let row := ("sync", Store.settingsKey)
  let before : List Event :=
    [.join true, .session (.upsert row (.text "\x7b\"hourly_rate\":5\x7d")),
      .act 0 (.load .settings), .session (.delete row)]
  have opened : Session.open? .empty = .ok s := rfl
  have readable : Run.Throughout step Readable (start s (.from 0))
      (before ++ [.session .poll]) :=
    ⟨trivial, ⟨trivial, trivial⟩, fun saves => saves.elim, ⟨trivial, trivial⟩,
      ⟨trivial, trivial⟩, trivial⟩
  have polled : ((start s (.from 0)).after before).session.poll.1 = .ok 0 := by decide +kernel
  have current := claim .empty s (.from 0) before 0 opened readable polled (by decide +kernel)
  have stale :
      let t := (start s (.from 0)).after (before ++ [.session .poll])
      ¬∀ x ∈ t.stores, x.1.settings =
        (Opened.loadSettings ⟨x.1, t.session, t.ids⟩).store.settings := by
    decide +kernel
  exact stale fun x hx => current x hx .settings

/-- The same run with a poll before the rate is loaded, and two changes delivered at the end. -/
theorem current_iff_polled :
    let s : Session := ⟨.empty, ⟨[], 0, 0, .empty⟩⟩
    let row := ("sync", Store.settingsKey)
    let before : List Event :=
      [.join true, .session (.upsert row (.text "\x7b\"hourly_rate\":5\x7d")), .session .poll,
        .act 0 (.load .settings), .session (.delete row)]
    let rest : List Event := [.deliver 0, .deliver 0]
    let t := (start s (.from 0)).after (before ++ .session .poll :: rest)
    ∃ r, t.stores[0]? = some (r, 0) ∧
      ∀ τ : Topic, τ.part r = τ.part (τ.load (⟨r, t.session, t.ids⟩ : Opened Session)).store ↔
        ¬Run.Since step (Overlooked 0 τ) (Unheard 0 τ) (start s (.from 0))
          (before ++ .session .poll :: rest) := by
  intro s row before rest t
  have opened : Session.open? .empty = .ok s := rfl
  have readable : Run.Throughout step Readable (start s (.from 0))
      (before ++ .session .poll :: rest) :=
    ⟨trivial, ⟨trivial, trivial⟩, ⟨trivial, trivial⟩, fun saves => saves.elim, ⟨trivial, trivial⟩,
      ⟨trivial, trivial⟩, trivial, trivial, trivial⟩
  have quiet : ∀ e ∈ rest, ¬e.Commits := by
    intro e he
    rcases List.mem_cons.1 he with rfl | he
    · exact id
    · obtain rfl := List.mem_singleton.1 he
      exact id
  have number : t.stores[0]?.map Prod.snd = some 0 := by decide +kernel
  obtain ⟨⟨r, i⟩, entry, same⟩ := Option.map_eq_some_iff.1 number
  have zero : i = 0 := same
  rw [zero] at entry
  exact ⟨r, entry, current_iff opened (.from 0) readable quiet 0 entry (by decide +kernel)⟩

end Reroute.System
