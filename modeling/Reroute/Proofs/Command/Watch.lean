import Reroute.Command.Watch
import Reroute.Proofs.Storage.Delivery
import Reroute.Proofs.Store.Convergence
import Reroute.Proofs.Store.Footprint

/-!
# What a watch shows

Polls and announced changes come in any order while the connection writes and others commit. Every
change that renews something is shown, and what is shown last is the store as it is. If the snapshot
was complete when the store was opened, a watch that has polled since others committed and has taken
all changes shows what it would load.

## Main definitions

* `Watch.Event`, `Watch.after` — what may happen, and a watch after some events.
* `Watch.announced`, `Watch.consumed` — the changes of a run, and those that the watch took.
* `Store.heed`, `Store.blocks` — what a store reports of changes, and what is shown of it.
* `Watch.Commits`, `Watch.Unpolled` — how the snapshot falls behind, and how it stays so.
* `Watch.Attentive` — a watch whose copies are what the connection knows, once nothing waits.

## Main results

* `Watch.Sound.shown_after` — one block for each change that renews something.
* `Watch.Attentive.agrees_after` — when the snapshot is complete.
* `Watch.shown_after_open` — what is shown is what the watch knows, and current.
-/

namespace Reroute

/-! ## What a store reports -/

namespace Store

/-- What a store reports of changes that it takes one after the other, and what it is after each. -/
def heed (s : Store) : List Change → List (Option Reconciled × Store)
  | [] => []
  | c :: cs => s.handle c :: (s.handle c).2.heed cs

/-- The store after some changes. -/
def heeded (s : Store) (cs : List Change) : Store := cs.foldl (fun s c => (s.handle c).2) s

/-- A block for each change that renews something. -/
def blocks (s : Store) (cs : List Change) : List (List String) :=
  ((s.heed cs).filter (·.1.isSome)).map fun x => Command.statsLines x.2

theorem heed_append (s : Store) (cs ds : List Change) :
    s.heed (cs ++ ds) = s.heed cs ++ (s.heeded cs).heed ds := by
  induction cs generalizing s with
  | nil => rfl
  | cons c cs ih => exact congrArg _ (ih (s.handle c).2)

theorem blocks_append (s : Store) (cs ds : List Change) :
    s.blocks (cs ++ ds) = s.blocks cs ++ (s.heeded cs).blocks ds := by
  unfold blocks
  rw [heed_append, List.filter_append, List.map_append]

theorem heeded_append (s : Store) (cs ds : List Change) :
    s.heeded (cs ++ ds) = (s.heeded cs).heeded ds := List.foldl_append

/-- A change that is not reported leaves the store as it is. -/
theorem handle_of_none {s : Store} {c : Change} (h : (s.handle c).1 = none) :
    (s.handle c).2 = s := by
  rcases s.handled c with ⟨-, same⟩ | ⟨τ, -, reported, -⟩
  · rw [same]
  · rw [h] at reported
    cases reported

end Store

namespace Watch

/-! ## Runs -/

/-- What may happen: something at the connection, polls among it, or the watch takes a change. -/
inductive Event where
  | session (e : Session.Event)
  | take

def step (w : Watch) : Event → Watch
  | .session e => { w with session := w.session.step e }
  | .take => w.take

/-- The watch after some events. -/
def after (w : Watch) (es : List Event) : Watch := es.foldl step w

/-- The changes that wait for the watch. -/
def waiting (w : Watch) : List Change := w.session.waiting w.listener

/-- The changes that an event announces. -/
def announces (w : Watch) : Event → List Change
  | .session e => w.session.announced e
  | .take => []

/-- The change that the watch takes at an event, if it takes one. -/
def takes (w : Watch) : Event → List Change
  | .session _ => []
  | .take => w.session.connection.feed.taken w.listener (.next w.listener)

/-- The changes that are announced in a run. -/
def announced (w : Watch) : List Event → List Change
  | [] => []
  | e :: es => w.announces e ++ (w.step e).announced es

/-- The changes that the watch takes in a run. -/
def consumed (w : Watch) : List Event → List Change
  | [] => []
  | e :: es => w.takes e ++ (w.step e).consumed es

/-- The connection is in order and the watch listens. -/
structure Sound (w : Watch) : Prop where
  coherent : w.session.Coherent
  listens : w.session.connection.feed.queue? w.listener = some w.waiting

theorem sound_start {s : Session} (h : s.Coherent) (store : Store) : (start store s).Sound := by
  have queue := Session.queue?_subscribe s
  exact ⟨h.subscribe, queue.trans (congrArg some (Session.waiting_eq queue).symm)⟩

/-! ## What is shown -/

/-- The watch finds nothing yet, or takes the first change that waits and shows what it renewed. -/
theorem Sound.take_cases {w : Watch} (h : w.Sound) :
    (w.waiting = [] ∧ w.takes .take = [] ∧ w.take = w) ∨
    ∃ c cs, w.waiting = c :: cs ∧ w.takes .take = [c] ∧
      w.take = ⟨(w.store.handle c).2,
        w.session.withFeed (w.session.connection.feed.next w.listener).2, w.listener,
        w.shown ++ w.store.blocks [c]⟩ := by
  have queue := h.listens
  have found : w.session.connection.feed.next w.listener =
      (w.waiting.head?.elim .pending .change,
        (w.session.connection.feed.next w.listener).2) :=
    Prod.ext (h.coherent.sound.next_fst queue) rfl
  have taken : w.takes .take ++ w.waiting.tail = w.waiting := Feed.taken_next queue
  unfold take
  rw [found]
  cases hw : w.waiting with
  | nil =>
    rw [hw] at taken
    exact .inl ⟨rfl, (List.append_nil _).symm.trans taken, rfl⟩
  | cons c cs =>
    rw [hw] at taken
    refine .inr ⟨c, cs, rfl, List.append_cancel_right (taken : _ ++ cs = [c] ++ cs), ?_⟩
    obtain ⟨⟨r, store⟩, handled⟩ : ∃ x, w.store.handle c = x := ⟨_, rfl⟩
    simp only [List.head?_cons, Option.elim_some, handled, Store.blocks, Store.heed]
    cases r with
    | none => exact congrArg _ (List.append_nil w.shown).symm
    | some r => rfl

theorem Sound.step {w : Watch} (h : w.Sound) (e : Event) : (w.step e).Sound := by
  cases e with
  | session e =>
    have queue := h.coherent.queue?_step e h.listens
    exact ⟨h.coherent.step e, queue.trans (congrArg some (Session.waiting_eq queue).symm)⟩
  | take =>
    change w.take.Sound
    rcases h.take_cases with ⟨-, -, same⟩ | ⟨c, cs, hw, -, took⟩
    · rw [same]
      exact h
    · have queue : (w.session.connection.feed.next w.listener).2.queue? w.listener =
          some w.waiting.tail := by
        rw [Feed.queue?_next, if_pos rfl, h.listens, Option.map_some]
      rw [took]
      exact ⟨h.coherent.withFeed (h.coherent.sound.next _),
        queue.trans (congrArg some (Session.waiting_eq queue).symm)⟩

/-- Changes are taken in the order in which they were announced. -/
theorem Sound.takes_append {w : Watch} (h : w.Sound) (e : Event) :
    w.takes e ++ (w.step e).waiting = w.waiting ++ w.announces e := by
  cases e with
  | session e => exact Session.waiting_eq (h.coherent.queue?_step e h.listens)
  | take =>
    change w.takes .take ++ w.take.waiting = w.waiting ++ []
    rcases h.take_cases with ⟨-, none, same⟩ | ⟨c, cs, hw, taken, took⟩
    · rw [same, none, List.append_nil, List.nil_append]
    · have queue : (w.session.connection.feed.next w.listener).2.queue? w.listener = some cs := by
        rw [Feed.queue?_next, if_pos rfl, h.listens, hw]
        rfl
      have left : w.take.waiting = cs := by
        rw [took]
        exact Session.waiting_eq queue
      rw [taken, left, hw, List.append_nil, List.singleton_append]

/-- A block is shown for each change that is taken and renews something. -/
theorem Sound.shown_step {w : Watch} (h : w.Sound) (e : Event) :
    (w.step e).shown = w.shown ++ w.store.blocks (w.takes e) ∧
      (w.step e).store = w.store.heeded (w.takes e) := by
  cases e with
  | session e => exact ⟨(List.append_nil _).symm, rfl⟩
  | take =>
    change w.take.shown = _ ∧ w.take.store = _
    rcases h.take_cases with ⟨-, none, same⟩ | ⟨c, cs, -, taken, took⟩
    · rw [same, none]
      exact ⟨(List.append_nil _).symm, rfl⟩
    · rw [took, taken]
      exact ⟨rfl, rfl⟩

/-- The last block tells of the store after all changes, if the block before them did. -/
theorem getLast?_append_blocks {shown : List (List String)} {s : Store}
    (h : shown.getLast? = some (Command.statsLines s)) (cs : List Change) :
    (shown ++ s.blocks cs).getLast? = some (Command.statsLines (s.heeded cs)) := by
  induction cs generalizing shown s with
  | nil => exact (congrArg _ (List.append_nil shown)).trans h
  | cons c cs ih =>
    have split : s.blocks (c :: cs) = s.blocks [c] ++ (s.handle c).2.blocks cs :=
      s.blocks_append [c] cs
    rw [split, ← List.append_assoc]
    refine ih ?_
    cases reported : (s.handle c).1 with
    | none =>
      have nothing : s.blocks [c] = [] := by
        simp only [Store.blocks, Store.heed, List.filter_cons, reported, Option.isSome_none]
        rfl
      rw [nothing, List.append_nil, Store.handle_of_none reported, h]
    | some r =>
      have block : s.blocks [c] = [Command.statsLines (s.handle c).2] := by
        simp only [Store.blocks, Store.heed, List.filter_cons, reported, Option.isSome_some]
        rfl
      rw [block, List.getLast?_concat]

/-! ## Runs -/

theorem Sound.after {w : Watch} (h : w.Sound) (es : List Event) : (w.after es).Sound := by
  induction es generalizing w with
  | nil => exact h
  | cons e es ih => exact ih (h.step e)

theorem Sound.consumed_append {w : Watch} (h : w.Sound) (es : List Event) :
    w.consumed es ++ (w.after es).waiting = w.waiting ++ w.announced es := by
  induction es generalizing w with
  | nil => exact (List.append_nil _).symm
  | cons e es ih =>
    calc w.takes e ++ (w.step e).consumed es ++ ((w.step e).after es).waiting
      _ = w.takes e ++ (w.step e).waiting ++ (w.step e).announced es := by
        rw [List.append_assoc, ih (h.step e), List.append_assoc]
      _ = w.waiting ++ (w.announces e ++ (w.step e).announced es) := by
        rw [h.takes_append, List.append_assoc]

theorem Sound.shown_after {w : Watch} (h : w.Sound) (es : List Event) :
    (w.after es).shown = w.shown ++ w.store.blocks (w.consumed es) ∧
      (w.after es).store = w.store.heeded (w.consumed es) := by
  induction es generalizing w with
  | nil => exact ⟨(List.append_nil _).symm, rfl⟩
  | cons e es ih =>
    obtain ⟨shown, store⟩ := h.shown_step e
    obtain ⟨shown', store'⟩ := ih (h.step e)
    change ((w.step e).after es).shown = w.shown ++ w.store.blocks (w.takes e ++ _) ∧
      ((w.step e).after es).store = w.store.heeded (w.takes e ++ _)
    rw [Store.blocks_append, Store.heeded_append, ← store, ← List.append_assoc, ← shown]
    exact ⟨shown', store'⟩

/-- What is shown last is the store as it is, if it was at first. -/
theorem Sound.last_after {w : Watch} (h : w.Sound)
    (last : w.shown.getLast? = some (Command.statsLines w.store)) (es : List Event) :
    (w.after es).shown.getLast? = some (Command.statsLines (w.after es).store) := by
  obtain ⟨shown, store⟩ := h.shown_after es
  rw [shown, store]
  exact getLast?_append_blocks last _

/-! ## What is current -/

/-- Only texts are committed, and what is written is read back. -/
def Event.Readable : Event → Prop
  | .session e => e.Textual ∧ e.Legible
  | .take => True

/-- Another connection commits. -/
def Commits (w : Watch) (e : Event) : Prop := (w.step e).session.current ≠ w.session.current

/-- No poll succeeds. -/
def Unpolled (w : Watch) (e : Event) : Prop :=
  ¬∃ n, e = .session .poll ∧ w.session.poll.1 = .ok n

/-- A watch is the only store of its connection. -/
def system (w : Watch) (ids : Supply) : System := ⟨w.session, ids, [(w.store, w.listener)]⟩

theorem system_entry (w : Watch) (ids : Supply) :
    (w.system ids).stores[0]? = some (w.store, w.listener) := rfl

/-- What happens to a watch happens to its system. -/
def Event.system : Event → System.Event
  | .session e => .session e
  | .take => .deliver 0

/-- A watch that starts on a store that was opened joins its connection. -/
theorem system_start (shared : Bool) (s : Session) (ids : Supply) :
    let o := Opened.openOn (.working shared) s ids
    (start o.store o.medium).system o.ids = (System.start s ids).step (.join shared) := rfl

theorem system_step (w : Watch) (ids : Supply) (e : Event) :
    (w.step e).system ids = (w.system ids).step e.system := by
  cases e with
  | session e => rfl
  | take =>
    obtain ⟨⟨found, feed⟩, next⟩ : ∃ x, w.session.connection.feed.next w.listener = x := ⟨_, rfl⟩
    simp only [step, take, system, Event.system, System.step, List.getElem?_cons_zero, next]
    cases found with
    | change c =>
      obtain ⟨⟨r, store⟩, handled⟩ : ∃ x, w.store.handle c = x := ⟨_, rfl⟩
      simp only [handled]
      cases r <;> rfl
    | _ => rfl

theorem readable_system {w : Watch} {e : Event} (h : e.Readable) (ids : Supply) :
    (w.system ids).Readable e.system := by
  cases e with
  | session e => exact h
  | take => trivial

/-- The watch is in order and overlooks nothing. -/
structure Attentive (w : Watch) (ids : Supply) : Prop where
  coherent : (w.system ids).Coherent
  fresh : ∀ τ, ¬System.StaleAt 0 τ (w.system ids)

theorem Attentive.sound {w : Watch} {ids : Supply} (h : w.Attentive ids) : w.Sound where
  coherent := h.coherent.healthy.coherent
  listens := (h.coherent.member (w.system_entry ids)).tells.listens

/-- A watch of a store that was opened with a complete snapshot overlooks nothing. -/
theorem attentive_start {s : Session} (h : s.Healthy) (known : ∀ p, s.Agrees p) (shared : Bool)
    (ids : Supply) :
    let o := Opened.openOn (.working shared) s ids
    (start o.store o.medium).Attentive o.ids ∧ ∀ p, o.medium.Agrees p := by
  intro o
  obtain ⟨writes, links, -⟩ := System.openOn_cases (Links.working_sound shared) s ids
  have opened : ∀ p, o.medium.Agrees p := by
    rcases writes with same | ⟨q, v, -, written⟩
    · exact fun p => same ▸ known p
    · intro p
      rw [written]
      exact (s.agrees_set q p v).2 (.inr (known p))
  have coherent := System.coherent_start h ids
  have joined : (System.start s ids).Readable (.join shared) := trivial
  have begun : (start o.store o.medium).system o.ids = (System.start s ids).step (.join shared) :=
    system_start shared s ids
  refine ⟨⟨begun ▸ coherent.step joined, fun τ stale => ?_⟩, opened⟩
  rw [begun] at stale
  rcases (coherent.stale_step joined 0 τ).1 stale with
    ⟨-, r, i, entry, -, differs⟩ | ⟨⟨r, i, hr, -⟩, -⟩
  · obtain ⟨rfl, -⟩ := Store.entry_unique entry (rfl : _ = some (o.store, o.medium.subscribe.1))
    have sound : o.store.links.Sound := links ▸ Links.working_sound shared
    exact differs (congrArg _ (Topic.stored_eq_known sound (opened _)))
  · cases hr

theorem Attentive.step {w : Watch} {ids : Supply} (h : w.Attentive ids) {e : Event}
    (he : e.Readable) : (w.step e).Attentive ids := by
  have readable := readable_system (w := w) he ids
  refine ⟨system_step w ids e ▸ h.coherent.step readable, fun τ stale => ?_⟩
  rw [system_step] at stale
  -- Nothing is loaded, so nothing can be overlooked.
  rcases (h.coherent.stale_step readable 0 τ).1 stale with ⟨loads, -⟩ | ⟨before, -⟩
  · cases e <;> exact loads
  · exact h.fresh τ before

theorem Attentive.after {w : Watch} {ids : Supply} (h : w.Attentive ids) {es : List Event}
    (hes : ∀ e ∈ es, e.Readable) : (w.after es).Attentive ids := by
  induction es generalizing w with
  | nil => exact h
  | cons e es ih =>
    exact ih (h.step (hes e List.mem_cons_self)) fun f hf => hes f (List.mem_cons_of_mem e hf)

/-- Taking a change concerns the feed of the connection only. -/
theorem session_take (w : Watch) : ∃ feed, w.take.session = w.session.withFeed feed := by
  unfold take
  split
  · rename_i c feed next
    refine ⟨feed, ?_⟩
    dsimp only
    split <;> rfl
  · exact ⟨w.session.connection.feed, rfl⟩

theorem Attentive.missed_step {w : Watch} {ids : Supply} (h : w.Attentive ids) {e : Event}
    (missed : ¬∀ p, (w.step e).session.Agrees p) :
    Commits w e ∨ (¬∀ p, w.session.Agrees p) ∧ Unpolled w e := by
  cases e with
  | session e =>
    refine (h.coherent.healthy.committed_or_missed missed).imp_right ?_
    rintro ⟨before, other⟩
    exact ⟨before, fun ⟨_, same, _⟩ => other (Event.session.inj same)⟩
  | take =>
    obtain ⟨feed, took⟩ := w.session_take
    have taken : (w.step .take).session = w.session.withFeed feed := took
    rw [taken] at missed
    exact .inr ⟨missed, nofun⟩

/-- The snapshot is complete if it was at first and was polled since others committed. -/
theorem Attentive.agrees_after {w : Watch} {ids : Supply} (h : w.Attentive ids) {es : List Event}
    (hes : ∀ e ∈ es, e.Readable) (known : ∀ p, w.session.Agrees p)
    (polled : ¬Run.Since Watch.step Commits Unpolled w es) :
    ∀ p, (w.after es).session.Agrees p := by
  refine Classical.byContradiction fun missed => polled ?_
  have fell : _ ∨ Run.Since Watch.step Commits Unpolled w es :=
    Run.kept_or_since (fun w => w.Attentive ids) (fun _ e => e.Readable)
      (p := fun w => ¬∀ p, w.session.Agrees p) (fun w e hw he => hw.step he)
      (fun w e hw _ => hw.missed_step) h (Run.throughout_of_mem hes w) missed
  exact fell.resolve_left fun before => before.1 known

/-- A watch that overlooks nothing has what it would load, if the snapshot is complete and nothing
waits. -/
theorem Attentive.load_eq {w : Watch} {ids : Supply} (h : w.Attentive ids)
    (known : ∀ p, w.session.Agrees p)
    (taken : w.session.connection.feed.queue? w.listener = some []) :
    (⟨w.store, w.session, ids⟩ : Opened Session).loadMetrics.loadSettings.store = w.store := by
  have entry := w.system_entry ids
  have current (τ : Topic) : τ.normalize (τ.stored w.session w.store.links) = τ.part w.store := by
    rw [Topic.stored_eq_known (h.coherent.member entry).links (known _)]
    refine Classical.byContradiction fun differs => h.fresh τ ⟨w.store, w.listener, entry, ?_, ?_⟩
    · change _ ∉ (w.session.waiting w.listener).map _
      rw [Session.waiting_eq taken]
      exact List.not_mem_nil
    · exact Ne.symm differs
  have metrics := current .metrics
  have settings := current .settings
  obtain ⟨⟨links, rules, m, r⟩, session, listener, shown⟩ := w
  exact congrArg₂ (fun m r => Store.mk links rules m r) metrics settings

/-- Every change that is taken and renews something is shown, and what is shown last is the store as
it is. Moreover, if only texts are committed, the snapshot was complete when the store was opened,
others have committed nothing since the last poll, and nothing waits, then what is shown last is
what would be shown of the rules with metrics and settings loaded anew. -/
theorem shown_after_open {d : Database} {s₀ : Session} (opened : Session.open? d = .ok s₀)
    (earlier : List Session.Event) :
    let s := s₀.after earlier
    (∀ (store : Store) (es : List Event),
      let w := (start store s).after es
      let taken := (start store s).consumed es
      w.shown = Command.statsLines store :: store.blocks taken ∧
      w.shown.length = 1 + (store.heed taken).countP (·.1.isSome) ∧
      w.shown.getLast? = some (Command.statsLines w.store) ∧
      taken ++ w.waiting = (start store s).announced es ∧
      (w.session.connection.feed.next w.listener).1 ≠ .closed) ∧
    ∀ (shared : Bool) (ids : Supply) (es : List Event),
      let o := Opened.openOn (.working shared) s ids
      let w := (start o.store o.medium).after es
      s.database.AllText → (∀ p, s.Agrees p) → (∀ e ∈ es, e.Readable) →
      w.session.connection.feed.queue? w.listener = some [] →
      ¬Run.Since step Commits Unpolled (start o.store o.medium) es →
      w.shown.getLast? = some (Command.statsLines
        (⟨w.store, w.session, o.ids⟩ : Opened Session).loadMetrics.loadSettings.store) := by
  intro s
  have coherent : s.Coherent := (Session.coherent_of_open? opened).after earlier
  constructor
  · intro store es w taken
    have sound := sound_start coherent store
    have now : w.Sound := sound.after es
    obtain ⟨shown, -⟩ := sound.shown_after es
    have blocks : w.shown = Command.statsLines store :: store.blocks taken := shown
    refine ⟨blocks, ?_, sound.last_after rfl es, ?_, ?_⟩
    · rw [blocks, List.length_cons, Nat.add_comm, Store.blocks, List.length_map,
        List.countP_eq_length_filter]
    · have none : (start store s).waiting = [] := Session.waiting_subscribe s
      rw [sound.consumed_append, none, List.nil_append]
    · rw [now.coherent.sound.next_fst now.listens]
      cases w.waiting.head? <;> nofun
  · intro shared ids es o w text known readable none polled
    have healthy : s.Healthy := ⟨coherent, text, fun _ => known⟩
    obtain ⟨attentive, complete⟩ := attentive_start healthy known shared ids
    have now : w.Attentive o.ids := attentive.after readable
    rw [now.load_eq (attentive.agrees_after readable complete polled) none]
    exact attentive.sound.last_after rfl es

/-- Another connection commits a rate, the watch polls, and takes that change and one of its own
connection. -/
theorem shown_after_open_polled :
    let s₀ : Session := ⟨.empty, ⟨[], 0, 0, .empty⟩⟩
    let counts : Json := .object [("total_redirects", .number (.natural 2))]
    let es : List Event :=
      [.session (.upsert ("sync", Store.settingsKey) (.text "\x7b\"hourly_rate\":5\x7d")),
        .session (.set ⟨.device, Store.metricsKey⟩ counts), .session .poll, .take, .take]
    let o := Opened.openOn (.working true) (s₀.after []) (.from 0)
    let w := (start o.store o.medium).after es
    w.shown.length = 3 ∧
      w.shown.getLast? = some (Command.statsLines
        (⟨w.store, w.session, o.ids⟩ : Opened Session).loadMetrics.loadSettings.store) := by
  intro s₀ counts es o w
  have opened : Session.open? .empty = .ok s₀ := rfl
  obtain ⟨all, current⟩ := shown_after_open opened []
  obtain ⟨-, length, -⟩ := all o.store es
  have text : s₀.database.AllText := nofun
  have readable : ∀ e ∈ es, e.Readable := by
    intro e he
    simp only [es, List.mem_cons, List.not_mem_nil, or_false] at he
    rcases he with rfl | rfl | rfl | rfl | rfl
    · exact ⟨trivial, trivial⟩
    · exact ⟨trivial, (by decide +kernel : Json.read? counts.print = some counts)⟩
    all_goals trivial
  have polled : ¬Run.Since step Commits Unpolled (start o.store o.medium) es := by
    simp only [es, Run.since_cons]
    rintro (⟨-, unpolled⟩ | ⟨commits, -⟩ | ⟨commits, -⟩ | ⟨commits, -⟩ | ⟨commits, -⟩ | since)
    · exact unpolled.2.1 ⟨1, rfl, by decide +kernel⟩
    · exact commits (by decide +kernel)
    · exact commits (by decide +kernel)
    · exact commits (by decide +kernel)
    · exact commits (by decide +kernel)
    · exact Run.not_since_nil since
  exact ⟨length.trans (by decide +kernel), current true (.from 0) es text (fun _ => rfl) readable
    (by decide +kernel) polled⟩

end Watch

end Reroute
