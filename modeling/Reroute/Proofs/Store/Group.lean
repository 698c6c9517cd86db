import Reroute.Proofs.Storage.Feed
import Reroute.Proofs.Store.Agreement

/-!
# Stores that share a memory

Several stores are opened on one memory. Each listens from its opening on, and takes the changes
that are delivered to it, its own among them. The last change of a place that waits carries the
value that is stored there, and when none waits, the copy of the store agrees with that value.

## Main definitions

* `Feed.latest?` — the last change of a place in a queue.
* `Group`, `Group.step` — stores with their listeners, and what may happen to them.
* `Store.Follows` — a copy agrees with what is stored, or the last change that waits will make it.
* `Group.Coherent` — what holds at all times.

## Main results

* `Store.Follows.set`, `Store.Follows.renew`, `Store.Follows.handle` — what a write, a new copy and
  a delivery make of it.
* `Group.Coherent.step` — every event keeps a group coherent.
* `Group.follows_after` — at all times every store follows the memory.
-/

namespace Reroute

/-! ## Changes of one place -/

namespace Feed

/-- The last change of a place in a queue. -/
def latest? (p : Place) (q : List Change) : Option Change := (q.filter (·.place = p)).getLast?

theorem latest?_concat (p : Place) (q : List Change) (c : Change) :
    latest? p (q ++ [c]) = if c.place = p then some c else latest? p q := by
  by_cases h : c.place = p <;> simp [latest?, h]

theorem latest?_cons (p : Place) (c : Change) (q : List Change) :
    latest? p (c :: q) = (latest? p q).or (if c.place = p then some c else none) := by
  by_cases h : c.place = p
  · simp [latest?, h, List.getLast?_cons]
  · simp [latest?, h]

end Feed

namespace Memory

/-- Adds a listener; returns its number. -/
def subscribe (m : Memory) : Nat × Memory :=
  (m.feed.subscribe.1, { m with feed := m.feed.subscribe.2 })

/-- What a write announces: the change, unless the new value is the same as the old one. -/
def announced (m : Memory) (p : Place) (v : Json) : List Change :=
  if (m.get p).any (·.same v) then [] else [⟨p, m.get p, some v⟩]

theorem feed_set (m : Memory) (p : Place) (v : Json) :
    (m.set p v).feed = m.feed.publishAll (m.announced p v) := by
  unfold announced set get
  split <;> simp_all [Feed.publishAll]

/-- Nothing of a place is announced by a write elsewhere. A write there is announced, or the old
value is the same. -/
theorem latest?_announced (m : Memory) (p : Place) (v : Json) (q : List Change) :
    (∀ r, r ≠ p → Feed.latest? r (q ++ m.announced p v) = Feed.latest? r q) ∧
      (Feed.latest? p (q ++ m.announced p v) = some ⟨p, m.get p, some v⟩ ∨
        (∃ w, m.get p = some w ∧ w.same v = true) ∧ m.announced p v = []) := by
  unfold announced
  split
  · rename_i same
    obtain ⟨w, hw, hv⟩ : ∃ w, m.get p = some w ∧ w.same v = true := by
      cases hm : m.get p <;> simp_all
    exact ⟨fun r _ => by rw [List.append_nil], .inr ⟨⟨w, hw, hv⟩, rfl⟩⟩
  · refine ⟨fun r hr => ?_, .inl ?_⟩
    · rw [Feed.latest?_concat, if_neg hr.symm]
    · rw [Feed.latest?_concat, if_pos rfl]

end Memory

namespace Store

/-! ## Following a memory -/

/-- The last change of a topic that waits carries the value that is stored. If none waits, the copy
of the store agrees with that value. -/
def Follows (m : Memory) (q : List Change) (s : Store) (τ : Topic) : Prop :=
  match Feed.latest? (τ.place s.links) q with
  | some c => ∃ v w, c.new = some v ∧ m.get (τ.place s.links) = some w ∧ v.same w = true
  | none => τ.Agree (τ.part s) (τ.normalize ((m.get (τ.place s.links)).getD .null))

/-- A write is followed, as it is announced or leaves a value that is the same. -/
theorem Follows.set {m : Memory} {q : List Change} {s : Store} {τ : Topic} (h : Follows m q s τ)
    (p : Place) (v : Json) : Follows (m.set p v) (q ++ m.announced p v) s τ := by
  obtain ⟨elsewhere, here⟩ := m.latest?_announced p v q
  unfold Follows at h ⊢
  rw [Memory.get_set]
  by_cases own : τ.place s.links = p
  · rw [if_pos own]
    subst own
    rcases here with told | ⟨⟨w, old, same⟩, silent⟩
    · rw [told]
      exact ⟨v, v, rfl, rfl, v.same_refl⟩
    · rw [silent, List.append_nil]
      split <;> rename_i hl <;> rw [hl] at h
      · obtain ⟨u, w', new, old', same'⟩ := h
        obtain rfl : w = w' := Option.some.inj (old.symm.trans old')
        exact ⟨u, v, new, rfl, Json.same_trans same' same⟩
      · rw [old] at h
        exact h.trans (τ.agree_normalize same)
  · rw [if_neg own, elsewhere _ own]
    exact h

theorem Follows.congr {m : Memory} {q : List Change} {s s' : Store} {τ : Topic}
    (h : Follows m q s τ) (links : s'.links = s.links) (part : τ.part s' = τ.part s) :
    Follows m q s' τ := by
  unfold Follows at h ⊢
  rw [links, part]
  exact h

/-- A store follows with a new copy that agrees with what is stored. -/
theorem Follows.renew {m : Memory} {q : List Change} {s s' : Store} {τ : Topic}
    (h : Follows m q s τ) (links : s'.links = s.links)
    (agree : τ.Agree (τ.part s') (τ.normalize ((m.get (τ.place s.links)).getD .null))) :
    Follows m q s' τ := by
  unfold Follows at h ⊢
  rw [links]
  split <;> rename_i hl <;> rw [hl] at h
  · exact h
  · exact agree

/-- A change that is delivered is followed. -/
theorem Follows.handle {m : Memory} {c : Change} {q : List Change} {s : Store} {τ : Topic}
    (h : Follows m (c :: q) s τ) : Follows m q (s.handle c).2 τ := by
  obtain ⟨taken, other⟩ := τ.part_handle s c
  unfold Follows at h ⊢
  rw [Store.handle_links]
  rw [Feed.latest?_cons] at h
  cases hl : Feed.latest? (τ.place s.links) q with
  | some d => simpa [hl] using h
  | none =>
    by_cases own : c.place = τ.place s.links
    · simp only [hl, own, if_true, Option.none_or] at h
      obtain ⟨v, w, new, stored, same⟩ := h
      simp only [taken own, new, stored, Option.getD_some]
      exact τ.agree_normalize same
    · simp only [hl, own, if_false, Option.none_or] at h
      simpa [other own] using h

end Store

/-! ## Groups -/

/-- Stores, each with the number under which it listens, on one memory. -/
structure Group where
  memory : Memory
  ids : Supply
  stores : List (Store × Nat)

namespace Group

/-- A memory without stores. -/
def start (m : Memory) (ids : Supply) : Group := ⟨m, ids, []⟩

/-- What may happen: a store is opened and begins to listen, a store operates, a value is written
without a store, or a store takes the next change. -/
inductive Event where
  | join (shared : Bool)
  | act (k : Nat) (a : Act)
  | set (p : Place) (v : Json)
  | deliver (k : Nat)

def step (t : Group) : Event → Group
  | .join shared =>
    let o := Opened.openOn (.working shared) t.memory t.ids
    let (i, memory) := o.medium.subscribe
    ⟨memory, o.ids, t.stores ++ [(o.store, i)]⟩
  | .act k a =>
    match t.stores[k]? with
    | some (s, i) =>
      let o := (⟨s, t.memory, t.ids⟩ : Opened Memory).act a
      ⟨o.medium, o.ids, t.stores.set k (o.store, i)⟩
    | none => t
  | .set p v => { t with memory := t.memory.set p v }
  | .deliver k =>
    match t.stores[k]? with
    | some (s, i) =>
      match t.memory.feed.next i with
      | (.change c, feed) =>
        ⟨{ t.memory with feed }, t.ids, t.stores.set k ((s.handle c).2, i)⟩
      | _ => t
    | none => t

/-- The group after some events. -/
def after (t : Group) (es : List Event) : Group := es.foldl step t

/-! ## What holds at all times -/

/-- A store works, its settings can be saved, and it follows the memory. -/
structure Member (m : Memory) (s : Store) (i : Nat) : Prop where
  links : ∃ shared, s.links = .working shared
  settings : s.settings.Sound
  follows : ∃ q, m.feed.queue? i = some q ∧ ∀ τ, s.Follows m q τ

theorem Member.sound {m : Memory} {s : Store} {i : Nat} (h : Member m s i) : s.links.Sound := by
  obtain ⟨shared, links⟩ := h.links
  exact links ▸ Links.working_sound shared

/-- The feed reaches all who listen, and the stores are in order and listen under different
numbers. -/
structure Coherent (t : Group) : Prop where
  feed : t.memory.feed.Sound
  member : ∀ {k : Nat} {s : Store} {i : Nat}, t.stores[k]? = some (s, i) → Member t.memory s i
  distinct : ∀ {j k : Nat} {r s : Store} {i : Nat}, t.stores[j]? = some (r, i) →
    t.stores[k]? = some (s, i) → j = k

theorem coherent_start {m : Memory} (h : m.feed.Sound) (ids : Supply) :
    (start m ids).Coherent where
  feed := h
  member h := by cases h
  distinct h := by cases h

/-- The memory stays or is written once. -/
def Writes (m m' : Memory) : Prop := m' = m ∨ ∃ p v, m' = m.set p v

theorem Writes.sound {m m' : Memory} (w : Writes m m') (h : m.feed.Sound) : m'.feed.Sound := by
  rcases w with rfl | ⟨p, v, rfl⟩
  · exact h
  · exact Memory.feed_set m p v ▸ h.publishAll _

theorem Writes.member {m m' : Memory} (w : Writes m m') (hf : m.feed.Sound) {s : Store} {i : Nat}
    (h : Member m s i) : Member m' s i := by
  rcases w with rfl | ⟨p, v, rfl⟩
  · exact h
  · obtain ⟨q, queue, follows⟩ := h.follows
    refine ⟨h.links, h.settings, q ++ m.announced p v, ?_, fun τ => (follows τ).set p v⟩
    rw [Memory.feed_set, hf.queue?_publishAll, queue]
    rfl

/-- A store is not concerned by what happens to other queues. -/
theorem Member.congr {m : Memory} {feed : Feed} {s : Store} {i : Nat} (h : Member m s i)
    (queue : feed.queue? i = m.feed.queue? i) : Member { m with feed } s i := by
  obtain ⟨q, hq, follows⟩ := h.follows
  exact ⟨h.links, h.settings, q, queue.trans hq, follows⟩

/-- What a store would load from memory. -/
theorem stored_eq (m : Memory) {links : Links} (h : links.Sound) (τ : Topic) :
    τ.stored m links = (m.get (τ.place links)).getD .null := by
  have read : (τ.link links).read m τ.key = .ok (m.get (τ.place links)) := by
    unfold Link.read
    rw [Topic.link_sound h]
    rfl
  simp only [Topic.stored, Opened.readOrNull, read]
  cases m.get (τ.place links) <;> rfl

/-- A copy that is loaded agrees with what is stored. -/
theorem agree_loaded (m : Memory) {links : Links} (h : links.Sound) (τ : Topic) :
    τ.Agree (τ.normalize (τ.stored m links))
      (τ.normalize ((m.get (τ.place links)).getD .null)) := by
  rw [stored_eq m h]
  cases τ with
  | metrics => exact Eq.refl _
  | settings => exact (Settings.normalize_sound _).eqv_refl

/-- A store that operates writes at most once, and follows. -/
theorem act_member {o : Opened Memory} {i : Nat} (hf : o.medium.feed.Sound)
    (h : Member o.medium o.store i) (a : Act) :
    Writes o.medium (o.act a).medium ∧ Member (o.act a).medium (o.act a).store i := by
  rcases Opened.act_cases Memory.puts h.sound.config a with
    ⟨-, rules, ids, ha | ha⟩ | ⟨τ, rfl⟩ | ⟨-, settings, ha, sound⟩
  · obtain ⟨q, queue, follows⟩ := h.follows
    rw [ha]
    exact ⟨.inl rfl, h.links, h.settings, q, queue,
      fun τ => (follows τ).congr rfl (by cases τ <;> rfl)⟩
  · have writes : Writes o.medium _ :=
      .inr ⟨Opened.rulesPlace o.store.links, Rule.encodeList rules, rfl⟩
    obtain ⟨-, -, q, queue, follows⟩ := writes.member hf h
    rw [ha]
    exact ⟨writes, h.links, h.settings, q, queue,
      fun τ => (follows τ).congr rfl (by cases τ <;> rfl)⟩
  · obtain ⟨q, queue, follows⟩ := h.follows
    have links : (τ.load o).store.links = o.store.links := τ.load_links o
    have settings : (τ.load o).store.settings.Sound := by
      cases τ with
      | metrics => exact h.settings
      | settings => exact Settings.normalize_sound _
    change Writes o.medium (τ.load o).medium ∧ Member (τ.load o).medium (τ.load o).store i
    rw [τ.load_medium]
    refine ⟨.inl rfl, links ▸ h.links, settings, q, queue, fun υ => ?_⟩
    by_cases own : υ = τ
    · subst own
      exact (follows υ).renew links (υ.part_load o ▸ agree_loaded o.medium h.sound υ)
    · exact (follows υ).congr links (τ.part_load_ne o own)
  · have writes : Writes o.medium _ :=
      .inr ⟨Topic.settings.place o.store.links, settings.encode, rfl⟩
    obtain ⟨-, -, q, queue, follows⟩ := writes.member hf h
    rw [ha]
    refine ⟨writes, h.links, sound h.settings, q, queue, fun τ => ?_⟩
    cases τ with
    | metrics => exact (follows .metrics).congr rfl rfl
    | settings =>
      refine (follows .settings).renew rfl ?_
      rw [Memory.get_set, if_pos rfl]
      change settings.Eqv (.normalize settings.encode)
      rw [Settings.normalize_encode (sound h.settings)]
      exact (sound h.settings).eqv_refl

/-! ## Events -/

theorem step_deliver {t : Group} {j : Nat} {s : Store} {i : Nat} (h : t.stores[j]? = some (s, i))
    {q : List Change} (queue : t.memory.feed.queue? i = some q) :
    (q = [] ∧ t.step (.deliver j) = t) ∨ ∃ c cs, q = c :: cs ∧
      t.step (.deliver j) = ⟨{ t.memory with feed := (t.memory.feed.next i).2 }, t.ids,
        t.stores.set j ((s.handle c).2, i)⟩ := by
  cases q with
  | nil =>
    refine .inl ⟨rfl, ?_⟩
    simp only [step, h, Feed.next_of_nil queue]
    by_cases listed : i ∈ t.memory.feed.listed <;> simp only [listed, if_true, if_false]
  | cons c cs => exact .inr ⟨c, cs, rfl, by simp only [step, h, Feed.next, queue]⟩

/-- A coherent group remains so when one of its stores is replaced. -/
theorem Coherent.replace {t : Group} (h : t.Coherent) {j : Nat} {s s' : Store} {i : Nat}
    (hj : t.stores[j]? = some (s, i)) {memory : Memory} (ids : Supply) (feed : memory.feed.Sound)
    (self : Member memory s' i)
    (others : ∀ k r l, k ≠ j → t.stores[k]? = some (r, l) → Member memory r l) :
    Coherent ⟨memory, ids, t.stores.set j (s', i)⟩ := by
  refine ⟨feed, fun {k r l} hk => ?_, fun {k m r r' l} hk hm => ?_⟩
  · rcases Store.of_getElem?_set hk with ⟨-, hx⟩ | ⟨other, hk⟩
    · cases hx
      exact self
    · exact others k r l other hk
  · obtain ⟨q, hq⟩ := Store.listener_of_set hj hk
    obtain ⟨q', hq'⟩ := Store.listener_of_set hj hm
    exact h.distinct hq hq'

/-- Every event keeps a group coherent. -/
theorem Coherent.step {t : Group} (h : t.Coherent) (e : Event) : (t.step e).Coherent := by
  cases e with
  | join shared =>
    obtain ⟨medium, links, parts⟩ :=
      Opened.openOn_cases Memory.puts (Links.working_sound shared).config t.memory t.ids
    have working := Links.working_sound shared
    have writes : Writes t.memory (Opened.openOn (.working shared) t.memory t.ids).medium :=
      medium.imp id fun ⟨rules, saved⟩ => ⟨_, _, saved⟩
    have feed := writes.sound h.feed
    have old : ∀ {k : Nat} {r : Store} {l : Nat}, t.stores[k]? = some (r, l) →
        Member (t.step (.join shared)).memory r l ∧
          l ≠ (Opened.openOn (.working shared) t.memory t.ids).medium.feed.subscribe.1 := by
      intro k r l hk
      have member := writes.member h.feed (h.member hk)
      obtain ⟨q, queue, -⟩ := member.follows
      obtain ⟨other, same⟩ := Feed.queue?_subscribe_other queue
      exact ⟨member.congr same, other⟩
    refine ⟨feed.subscribe, fun {k r l} hk => ?_, fun {k m r r' l} hk hm => ?_⟩
    · rcases Store.of_getElem?_concat hk with ⟨-, hx⟩ | hk
      · cases hx
        refine ⟨⟨shared, links⟩, ?_, [], ?_, fun τ => ?_⟩
        · have settings : (Opened.openOn (.working shared) t.memory t.ids).store.settings =
            .normalize _ := parts .settings
          rw [settings]
          exact Settings.normalize_sound _
        · exact (Feed.queue?_subscribe _ _).trans (if_pos rfl)
        · unfold Store.Follows
          rw [links, parts τ]
          exact agree_loaded _ working τ
      · exact (old hk).1
    · rcases Store.of_getElem?_concat hk with ⟨rfl, hx⟩ | hk <;>
        rcases Store.of_getElem?_concat hm with ⟨rfl, hy⟩ | hm
      · rfl
      · cases hx
        exact absurd rfl (old hm).2
      · cases hy
        exact absurd rfl (old hk).2
      · exact h.distinct hk hm
  | act j a =>
    cases hj : t.stores[j]? with
    | none =>
      simp only [Group.step, hj]
      exact h
    | some x =>
      obtain ⟨s, i⟩ := x
      obtain ⟨writes, self⟩ := act_member (o := ⟨s, t.memory, t.ids⟩) h.feed (h.member hj) a
      simp only [Group.step, hj]
      exact h.replace hj _ (writes.sound h.feed) self
        fun k r l _ hk => writes.member h.feed (h.member hk)
  | set p v =>
    have writes : Writes t.memory (t.memory.set p v) := .inr ⟨p, v, rfl⟩
    exact ⟨writes.sound h.feed, fun hk => writes.member h.feed (h.member hk), h.distinct⟩
  | deliver j =>
    cases hj : t.stores[j]? with
    | none =>
      simp only [Group.step, hj]
      exact h
    | some x =>
      obtain ⟨s, i⟩ := x
      obtain ⟨links, settings, q, queue, follows⟩ := h.member hj
      rcases step_deliver hj queue with ⟨-, same⟩ | ⟨c, cs, rfl, delivered⟩
      · rw [same]
        exact h
      · rw [delivered]
        have kept : (s.handle c).2.links = s.links := Store.handle_links s c
        refine h.replace hj _ (h.feed.next i) ⟨kept ▸ links, Store.handle_sound settings c, cs, ?_,
          fun τ => (follows τ).handle⟩ fun k r l other hk => (h.member hk).congr ?_
        · rw [Feed.queue?_next, if_pos rfl, queue]
          rfl
        · rw [Feed.queue?_next, if_neg fun same => ?_]
          subst same
          exact other (h.distinct hk hj)

theorem Coherent.after {t : Group} (h : t.Coherent) (es : List Event) : (t.after es).Coherent := by
  induction es generalizing t with
  | nil => exact h
  | cons e es ih => exact ih (h.step e)

/-! ## Agreement -/

/-- All changes were delivered to all stores. -/
def Delivered (t : Group) : Prop :=
  ∀ (k : Nat) (s : Store) (i : Nat), t.stores[k]? = some (s, i) →
    t.memory.feed.queue? i = some []

/-- When all changes were delivered, every copy agrees with what is stored. -/
theorem Coherent.agree {t : Group} (h : t.Coherent) (delivered : t.Delivered) {k : Nat} {s : Store}
    {i : Nat} (hk : t.stores[k]? = some (s, i)) (τ : Topic) :
    τ.Agree (τ.part s) (τ.normalize (τ.stored t.memory s.links)) := by
  obtain ⟨q, queue, follows⟩ := (h.member hk).follows
  obtain rfl : q = [] := Option.some.inj (queue.symm.trans (delivered k s i hk))
  rw [stored_eq _ (h.member hk).sound]
  exact follows τ

/-- Stores of one configuration area read the same places. -/
theorem place_eq {links links' : Links} (h : ∃ shared, links = .working shared)
    (h' : ∃ shared, links' = .working shared) (same : links.config.area = links'.config.area)
    (τ : Topic) : τ.place links = τ.place links' := by
  obtain ⟨shared, rfl⟩ := h
  obtain ⟨shared', rfl⟩ := h'
  cases τ with
  | metrics => rfl
  | settings => exact congrArg (fun area => (⟨area, Store.settingsKey⟩ : Place)) same

/-- At all times the last change of a topic that waits for a store carries the value that is stored,
and the copy of the store agrees with it if none waits. So when all changes were delivered, the
stores agree with the memory, and those of one configuration area with each other. -/
theorem follows_after (entries : Table Place Json) (ids : Supply) (es : List Event) :
    let t := (start ⟨entries, .empty⟩ ids).after es
    ∀ (k : Nat) (s : Store) (i : Nat), t.stores[k]? = some (s, i) →
      (∃ q, t.memory.feed.queue? i = some q ∧ ∀ τ, s.Follows t.memory q τ) ∧
      (t.Delivered → ∀ τ : Topic,
        τ.Agree (τ.part s) (τ.normalize (τ.stored t.memory s.links)) ∧
        ∀ (j : Nat) (r : Store) (l : Nat), t.stores[j]? = some (r, l) →
          r.links.config.area = s.links.config.area → τ.Agree (τ.part r) (τ.part s)) := by
  intro t k s i hk
  have coherent : t.Coherent := (coherent_start Feed.sound_empty ids).after es
  have member := coherent.member hk
  refine ⟨member.follows, fun delivered τ => ⟨coherent.agree delivered hk τ, ?_⟩⟩
  intro j r l hj same
  have other := coherent.member hj
  have place := place_eq other.links member.links same τ
  have read := coherent.agree delivered hj τ
  rw [stored_eq _ other.sound, place, ← stored_eq _ member.sound] at read
  exact read.trans (coherent.agree delivered hk τ).symm

/-- A rate of zero is set by one store and delivered to both. Then it gets a sign behind their
backs, which is not announced. -/
theorem follows_after_zero :
    let zero : Json := .object [("hourly_rate", .number (.float true .zero))]
    let t := (start ⟨[], .empty⟩ (.from 0)).after [.join true, .join true,
      .act 0 (.call (.rate "0")), .deliver 0, .deliver 1, .set ⟨.sync, Store.settingsKey⟩ zero]
    ∃ r s, t.stores = [(r, 0), (s, 1)] ∧
      s.settings.Eqv (.normalize (Topic.settings.stored t.memory s.links)) ∧
      r.settings.Eqv s.settings := by
  intro zero t
  let s : Store := ⟨.working true, [], .empty, ⟨some .zero⟩⟩
  have stores : t.stores = [(s, 0), (s, 1)] := by decide +kernel
  have queues : t.memory.feed.queues = [some [], some []] := by decide +kernel
  have first : t.stores[0]? = some (s, 0) := by rw [stores]; rfl
  have second : t.stores[1]? = some (s, 1) := by rw [stores]; rfl
  have delivered : t.Delivered := by
    intro k r i hk
    rw [stores] at hk
    match k, hk with
    | 0, rfl => simp [Feed.queue?, queues]
    | 1, rfl => simp [Feed.queue?, queues]
  obtain ⟨-, agree⟩ := follows_after [] (.from 0) _ 1 s 1 second
  obtain ⟨stored, others⟩ := agree delivered .settings
  exact ⟨s, s, stores, stored, others 0 s 0 first rfl⟩

end Group

end Reroute
