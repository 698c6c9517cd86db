import Mathlib.Data.List.Induction
import Reroute.Proofs.Run
import Reroute.Proofs.Storage.Session
import Reroute.Proofs.Store.Saved

/-!
# Stores that write the same rules

Every store writes the whole list of its rules and takes no rules from announced changes. So what is
stored is never a mixture: it is the list of the store that wrote last, as this store has it now.

## Main definitions

* `Commons`, `Commons.step` — stores on a storage that is shared, and what may happen to them.
* `Commons.Effect` — a store operates or takes a change, the storage changes, or nothing happens.
* `Commons.Current` — stored rules are those that their author lists.
* `Commons.Inherits` — a list was loaded, and only calls of its own store changed it.
* `Commons.LastWins` — what holds of stored and listed rules after a run.

## Main results

* `Commons.effect` — what events do.
* `Commons.Effect.rules` — what an event makes of the rules of one store.
* `Commons.Effect.current` — every event keeps stored rules those of their author.
* `Commons.lastWins` — the last write wins, in a memory and in a database with many connections.
-/

namespace Reroute

/-! ## Stores on a shared storage -/

/-- Stores, each with the handle that it uses, on one storage. For every value the number of the
store that wrote it last is kept. -/
structure Commons (σ : Type) where
  medium : σ
  author : Place → Option Nat
  ids : Supply
  stores : List (Store × Nat)

namespace Commons

variable {σ : Type} [Medium σ] [Handled σ] {kept : Json → Prop}

/-- A storage without stores. -/
def start (m : σ) (ids : Supply) : Commons σ := ⟨m, fun _ => none, ids, []⟩

/-- What may happen: a store is opened at a handle, a store operates or takes a change, or something
happens to the storage without a store. -/
inductive Event (σ : Type) where
  | join (h : Nat) (shared : Bool)
  | act (k : Nat) (a : Act)
  | handle (k : Nat) (c : Change)
  | outside (f : σ → σ)

/-- What happens without a store leaves all rules stored as they are. -/
def Event.Spares : Event σ → Prop
  | .outside f => ∀ m area,
    Medium.read (f m) ⟨area, Store.rulesKey⟩ = Medium.read m ⟨area, Store.rulesKey⟩
  | _ => True

/-- The storage at a handle, with the number of the store that writes. -/
def signed (t : Commons σ) (k h : Nat) : Signed σ := ⟨Handled.turn h t.medium, k, t.author⟩

/-- A store at the storage. -/
def opened (t : Commons σ) (k : Nat) (s : Store) (h : Nat) : Opened (Signed σ) :=
  ⟨s, t.signed k h, t.ids⟩

/-- What is left by a store that operated. -/
def leave (o : Opened (Signed σ)) (stores : List (Store × Nat)) : Commons σ :=
  ⟨o.medium.medium, o.medium.author, o.ids, stores⟩

def step (t : Commons σ) : Event σ → Commons σ
  | .join h shared =>
    let o := Opened.openOn (.working shared) (t.signed t.stores.length h) t.ids
    leave o (t.stores ++ [(o.store, h)])
  | .act k a =>
    match t.stores[k]? with
    | some (s, h) =>
      let o := (t.opened k s h).act a
      leave o (t.stores.set k (o.store, h))
    | none => t
  | .handle k c =>
    match t.stores[k]? with
    | some (s, h) => { t with stores := t.stores.set k ((s.handle c).2, h) }
    | none => t
  | .outside f => { t with medium := f t.medium }

/-- The stores after some events. -/
def after (t : Commons σ) (es : List (Event σ)) : Commons σ := es.foldl step t

/-! ### Stored rules -/

/-- Rules that a store wrote are those that the last store that wrote them lists now. -/
def Current (t : Commons σ) : Prop :=
  ∀ area k, t.author ⟨area, Store.rulesKey⟩ = some k →
    ∃ s h, t.stores[k]? = some (s, h) ∧ s.links.config.area = area ∧
      Medium.read t.medium ⟨area, Store.rulesKey⟩ = .ok (some (Rule.encodeList s.rules))

/-- The areas of all stores work. -/
def Working (t : Commons σ) : Prop :=
  ∀ (k : Nat) (s : Store) (h : Nat), t.stores[k]? = some (s, h) → s.links.config.fault = none

/-- What a store reads of stored rules. -/
theorem listed_opened {t : Commons σ} {k h : Nat} {s : Store} {v : Json}
    (sound : s.links.config.fault = none)
    (read : Medium.read t.medium ⟨s.links.config.area, Store.rulesKey⟩ = .ok (some v)) :
    (t.opened k s h).listed = v := by
  have turned : Medium.read (t.signed k h) ⟨s.links.config.area, Store.rulesKey⟩ =
      .ok (some v) := (Handled.read_turn h t.medium _).trans read
  simp only [Opened.listed, Opened.readOrNull, Link.read, opened, sound, turned]

/-! ### The rules of one store -/

/-- The event loads the rules of a store. -/
def Event.Loads (t : Commons σ) (k : Nat) : Event σ → Prop
  | .join _ _ => k = t.stores.length
  | .act j .loadRules => j = k
  | _ => False

/-- What an event makes of the rules of a store, unless it loads them. -/
def Event.edit (t : Commons σ) (k : Nat) : Event σ → List Rule → List Rule
  | .act j (.call c), rs => if j = k then c.edit t.ids rs else rs
  | _, rs => rs

/-- The rules that a store would load. -/
def loadable (t : Commons σ) (links : Links) : List Rule :=
  (Rule.listOfStored (Opened.readOrNull t.medium links.config Store.rulesKey) t.ids).1

theorem loadable_opened (t : Commons σ) (k h : Nat) (s : Store) :
    (t.opened k s h).loadable = t.loadable s.links := by
  have read (key : String) : s.links.config.read (t.signed k h) key =
      s.links.config.read t.medium key := by
    have turned (p : Place) : Medium.read (t.signed k h) p = Medium.read t.medium p :=
      Handled.read_turn h t.medium p
    simp only [Link.read, turned]
  simp only [Opened.loadable, Opened.listed, Opened.readOrNull, opened, loadable, read]

/-! ### What an event does -/

/-- The event neither loads nor edits the rules of a store. -/
def Event.Passes (t : Commons σ) (k : Nat) (e : Event σ) : Prop :=
  ¬e.Loads t k ∧ ∀ rs, e.edit t k rs = rs

/-- A store whose area works operates and nobody else does. It loads its rules or edits them. -/
structure Operates (t : Commons σ) (e : Event σ) (k : Nat) (s : Store) (h : Nat)
    (o : Opened (Signed σ)) : Prop where
  left : t.step e = leave o (t.step e).stores
  sound : s.links.config.fault = none
  links : o.store.links = s.links
  saved : Opened.Saved (t.opened k s h) o
  own : (t.step e).stores[k]? = some (o.store, h)
  before : ∀ x, t.stores[k]? = some x → x = (s, h)
  rules : e.Loads t k ∧ o.store.rules = t.loadable s.links ∨
    ¬e.Loads t k ∧ t.stores[k]? = some (s, h) ∧ o.store.rules = e.edit t k s.rules
  others : ∀ j, j ≠ k → (t.step e).stores[j]? = t.stores[j]? ∧ e.Passes t j

/-- What an event does: a store operates or takes a change, the storage changes, or nothing
happens. -/
inductive Effect (t : Commons σ) (e : Event σ) : Prop where
  | operates {k : Nat} {s : Store} {h : Nat} {o : Opened (Signed σ)} (op : t.Operates e k s h o)
  | handles {k : Nat} {s : Store} {h : Nat} {c : Change} (told : e = .handle k c)
    (listening : t.stores[k]? = some (s, h))
    (after : t.step e = { t with stores := t.stores.set k ((s.handle c).2, h) })
  | outside (f : σ → σ) (happened : e = .outside f)
  | nothing (same : t.step e = t)
    (passes : ∀ (k : Nat) (x : Store × Nat), t.stores[k]? = some x → e.Passes t k)

omit [Medium σ] [Handled σ] in
/-- An operation concerns the rules of no other store. -/
theorem Event.passes_act (t : Commons σ) {j k : Nat} (differ : k ≠ j) (a : Act) :
    (Event.act j a).Passes t k := by
  cases a <;> simp [Event.Passes, Event.Loads, Event.edit, differ.symm]

/-- A store that is opened loads its rules. -/
theorem operates_join (hm : Medium.Faithful σ kept) (hk : ∀ rs, kept (Rule.encodeList rs))
    (t : Commons σ) (h : Nat) (shared : Bool) :
    t.Operates (.join h shared) t.stores.length (.new (.working shared)) h
      (Opened.openOn (.working shared) (t.signed t.stores.length h) t.ids) := by
  have sound := (Links.working_sound shared).config
  obtain ⟨links, list, saved⟩ := Opened.openOn_saved hm hk sound (t.signed t.stores.length h) t.ids
  have loaded := list.trans (t.loadable_opened t.stores.length h (.new (.working shared)))
  refine ⟨rfl, sound, links, saved, List.getElem?_concat_length, fun x hx => ?_, .inl ⟨rfl, loaded⟩,
    fun j differ => ⟨?_, differ, fun _ => rfl⟩⟩
  · simp at hx
  · by_cases old : j < t.stores.length
    · exact List.getElem?_append_left old
    · refine (List.getElem?_eq_none ?_).trans (List.getElem?_eq_none (by omega)).symm
      change (t.stores ++ [_]).length ≤ j
      rw [List.length_append, List.length_singleton]
      omega

/-- A store that operates loads its rules or edits them. -/
theorem operates_act (hm : Medium.Faithful σ kept) (hk : ∀ rs, kept (Rule.encodeList rs))
    {t : Commons σ} {k h : Nat} {s : Store} (hs : t.stores[k]? = some (s, h))
    (sound : s.links.config.fault = none) (a : Act) :
    t.Operates (.act k a) k s h ((t.opened k s h).act a) := by
  obtain ⟨links, list, saved⟩ := Opened.act_saved hm hk (o := t.opened k s h) sound a
  have after : t.step (.act k a) =
      leave ((t.opened k s h).act a) (t.stores.set k (((t.opened k s h).act a).store, h)) := by
    simp only [step, hs]
  refine ⟨by rw [after]; rfl, sound, links, saved, ?_, fun x hx => ?_, ?_, fun j differ => ?_⟩
  · rw [after]
    exact List.getElem?_set_self (List.getElem?_eq_some_iff.1 hs).1
  · exact Option.some.inj (hx.symm.trans hs)
  · cases a with
    | loadRules => exact .inl ⟨rfl, list.trans (t.loadable_opened k h s)⟩
    | call c => exact .inr ⟨nofun, hs, list.trans (if_pos rfl).symm⟩
    | _ => exact .inr ⟨nofun, hs, list⟩
  · rw [after]
    exact ⟨List.getElem?_set_ne differ.symm, Event.passes_act t differ a⟩

theorem effect (hm : Medium.Faithful σ kept) (hk : ∀ rs, kept (Rule.encodeList rs))
    {t : Commons σ} (working : t.Working) (e : Event σ) : t.Effect e := by
  cases e with
  | join h shared => exact .operates (operates_join hm hk t h shared)
  | act k a =>
    cases hs : t.stores[k]? with
    | none =>
      refine .nothing (by simp only [step, hs]) fun j x hx => Event.passes_act t ?_ a
      rintro rfl
      cases hs.symm.trans hx
    | some x => exact .operates (operates_act hm hk hs (working k x.1 x.2 hs) a)
  | handle k c =>
    cases hs : t.stores[k]? with
    | none => exact .nothing (by simp only [step, hs]) fun _ _ _ => ⟨nofun, fun _ => rfl⟩
    | some x => exact .handles rfl hs (by simp only [step, hs])
  | outside f => exact .outside f rfl

/-! ### What an event preserves -/

section Steps

variable {t : Commons σ} {e : Event σ}

/-- A store has the rules that it had, but for its own calls, or it has just loaded them. -/
theorem Effect.rules (effect : t.Effect e) (working : t.Working) {k : Nat} {s : Store} {h : Nat}
    (hs : (t.step e).stores[k]? = some (s, h)) :
    s.links.config.fault = none ∧ (e.Loads t k ∧ s.rules = t.loadable s.links ∨
      ¬e.Loads t k ∧ ∃ s', t.stores[k]? = some (s', h) ∧ s.links = s'.links ∧
        s.rules = e.edit t k s'.rules) := by
  have stays (passes : e.Passes t k) (hs : t.stores[k]? = some (s, h)) :
      s.links.config.fault = none ∧ (e.Loads t k ∧ s.rules = t.loadable s.links ∨
        ¬e.Loads t k ∧ ∃ s', t.stores[k]? = some (s', h) ∧ s.links = s'.links ∧
          s.rules = e.edit t k s'.rules) :=
    ⟨working k s h hs, .inr ⟨passes.1, s, hs, rfl, (passes.2 s.rules).symm⟩⟩
  cases effect with
  | @operates j r l o op =>
    by_cases self : k = j
    · subst self
      obtain ⟨rfl, rfl⟩ := Store.entry_unique hs op.own
      refine ⟨op.links ▸ op.sound, ?_⟩
      rcases op.rules with ⟨loads, list⟩ | ⟨kept, hr, list⟩
      · exact .inl ⟨loads, op.links ▸ list⟩
      · exact .inr ⟨kept, r, hr, op.links, list⟩
    · obtain ⟨same, passes⟩ := op.others k self
      exact stays passes (same ▸ hs)
  | @handles j r l c told hr after =>
    subst told
    rw [after] at hs
    rcases Store.of_getElem?_set hs with ⟨rfl, hx⟩ | ⟨-, hs⟩
    · cases hx
      have links : (r.handle c).2.links = r.links := r.handle_links c
      exact ⟨links ▸ working k r h hr, .inr ⟨nofun, r, hr, links, r.handle_rules c⟩⟩
    · exact stays ⟨nofun, fun _ => rfl⟩ hs
  | outside f happened =>
    subst happened
    exact stays ⟨nofun, fun _ => rfl⟩ hs
  | nothing same passes =>
    rw [same] at hs
    exact stays (passes k _ hs) hs

/-- Rules that were written by a store stay so. -/
theorem Effect.written (effect : t.Effect e) {area : Area}
    (written : t.author ⟨area, Store.rulesKey⟩ ≠ none) :
    (t.step e).author ⟨area, Store.rulesKey⟩ ≠ none := by
  cases effect with
  | operates op =>
    rw [op.left]
    rcases op.saved.author area with same | own
    · exact fun missing => written (same.symm.trans missing)
    · exact fun missing => nomatch own.symm.trans missing
  | handles _ _ after =>
    rw [after]
    exact written
  | outside f happened =>
    subst happened
    exact written
  | nothing same =>
    rw [same]
    exact written

/-- Stored rules stay current when a store operates. -/
theorem Operates.current {k h : Nat} {s : Store} {o : Opened (Signed σ)}
    (op : t.Operates e k s h o) (current : t.Current) : (t.step e).Current := by
  have untouched {area : Area}
      (author : o.medium.author ⟨area, Store.rulesKey⟩ = t.author ⟨area, Store.rulesKey⟩)
      (read : Medium.read o.medium ⟨area, Store.rulesKey⟩ =
        Medium.read (t.signed k h) ⟨area, Store.rulesKey⟩)
      (list : area = s.links.config.area → t.author ⟨area, Store.rulesKey⟩ = some k →
        (t.opened k s h).listed = Rule.encodeList s.rules → o.store.rules = s.rules)
      {j : Nat} (written : o.medium.author ⟨area, Store.rulesKey⟩ = some j) :
      ∃ r l, (t.step e).stores[j]? = some (r, l) ∧ r.links.config.area = area ∧
        Medium.read o.medium ⟨area, Store.rulesKey⟩ = .ok (some (Rule.encodeList r.rules)) := by
    rw [author] at written
    obtain ⟨r, l, hr, at_area, stored⟩ := current area j written
    have stored' : Medium.read o.medium ⟨area, Store.rulesKey⟩ =
        .ok (some (Rule.encodeList r.rules)) :=
      read.trans ((Handled.read_turn h t.medium _).trans stored)
    by_cases self : j = k
    · subst self
      obtain ⟨rfl, rfl⟩ := Prod.mk.inj (op.before _ hr)
      subst at_area
      have same := list rfl written (listed_opened op.sound stored)
      exact ⟨o.store, l, op.own, by rw [op.links], by rw [same]; exact stored'⟩
    · exact ⟨r, l, (op.others j self).1.trans hr, at_area, stored'⟩
  intro area j written
  rw [op.left] at written
  have read : (t.step e).medium = o.medium.medium := congrArg Commons.medium op.left
  rw [read]
  rcases op.saved with wrote | ⟨kept, list⟩
  · by_cases here : area = s.links.config.area
    · subst here
      obtain rfl : k = j := Option.some.inj (wrote.author.symm.trans written)
      exact ⟨o.store, h, op.own, by rw [op.links], wrote.read⟩
    · obtain ⟨author, read⟩ := wrote.elsewhere area here
      exact untouched author read (fun same => absurd same here) written
  · obtain ⟨author, read⟩ := kept area
    exact untouched author read (fun _ _ => list) written

/-- Stored rules stay current. -/
theorem Effect.current (effect : t.Effect e) (current : t.Current) (spares : e.Spares) :
    (t.step e).Current := by
  cases effect with
  | operates op => exact op.current current
  | @handles j r l c told hr after =>
    rw [after]
    intro area k written
    obtain ⟨s, h, hs, at_area, stored⟩ := current area k written
    by_cases self : j = k
    · subst self
      obtain ⟨rfl, rfl⟩ := Store.entry_unique hs hr
      refine ⟨_, _, List.getElem?_set_self (List.getElem?_eq_some_iff.1 hr).1, ?_, ?_⟩
      · rw [Store.handle_links, at_area]
      · rw [Store.handle_rules, stored]
    · exact ⟨s, h, (List.getElem?_set_ne self).trans hs, at_area, stored⟩
  | outside f happened =>
    subst happened
    intro area k written
    obtain ⟨s, h, hs, at_area, stored⟩ := current area k written
    exact ⟨s, h, hs, at_area, (spares t.medium area).trans stored⟩
  | nothing same =>
    rw [same]
    exact current

end Steps

/-! ### Runs -/

theorem Working.step (hm : Medium.Faithful σ kept) (hk : ∀ rs, kept (Rule.encodeList rs))
    {t : Commons σ} (working : t.Working) (e : Event σ) : (t.step e).Working :=
  fun _ _ _ hs => ((effect hm hk working e).rules working hs).1

theorem written_after (hm : Medium.Faithful σ kept) (hk : ∀ rs, kept (Rule.encodeList rs))
    {t : Commons σ} (working : t.Working) (es : List (Event σ)) {area : Area}
    (written : t.author ⟨area, Store.rulesKey⟩ ≠ none) :
    (t.after es).author ⟨area, Store.rulesKey⟩ ≠ none := by
  induction es generalizing t with
  | nil => exact written
  | cons e es ih => exact ih (working.step hm hk e) ((effect hm hk working e).written written)

/-- What the events of a run make of the rules of a store, if none loads them. -/
def edits (k : Nat) : Commons σ → List (Event σ) → List Rule → List Rule
  | _, [], rs => rs
  | t, e :: es, rs => edits k (t.step e) es (e.edit t k rs)

theorem edits_concat (k : Nat) (t : Commons σ) (es : List (Event σ)) (e : Event σ)
    (rs : List Rule) : edits k t (es ++ [e]) rs = e.edit (t.after es) k (edits k t es rs) := by
  induction es generalizing t rs with
  | nil => rfl
  | cons e' es ih => exact ih (t.step e') (e'.edit t k rs)

/-- At one event of the run the rules of a store were loaded, at none after it, and from then on
they were changed by the calls of the store and nothing else. -/
def Inherits (t : Commons σ) (es : List (Event σ)) (k : Nat) (s : Store) : Prop :=
  ∃ before e later, es = before ++ e :: later ∧ e.Loads (t.after before) k ∧
    Run.Throughout step (fun t e => ¬e.Loads t k) ((t.after before).step e) later ∧
    s.rules = edits k ((t.after before).step e) later ((t.after before).loadable s.links)

theorem after_concat (t : Commons σ) (es : List (Event σ)) (e : Event σ) :
    t.after (es ++ [e]) = (t.after es).step e := by
  simp [after]

/-- Rules that are loaded are inherited from that event on. -/
theorem inherits_of_loads {t : Commons σ} {es : List (Event σ)} {e : Event σ} {k : Nat} {s : Store}
    (loads : e.Loads (t.after es) k) (rules : s.rules = (t.after es).loadable s.links) :
    t.Inherits (es ++ [e]) k s := ⟨es, e, [], rfl, loads, trivial, rules⟩

/-- Rules that are not loaded stay inherited. -/
theorem Inherits.concat {t : Commons σ} {es : List (Event σ)} {k : Nat} {s s' : Store}
    (inherits : t.Inherits es k s) {e : Event σ} (kept : ¬e.Loads (t.after es) k)
    (links : s'.links = s.links) (rules : s'.rules = e.edit (t.after es) k s.rules) :
    t.Inherits (es ++ [e]) k s' := by
  obtain ⟨before, e', later, rfl, loads, since, list⟩ := inherits
  have last : t.after (before ++ e' :: later) = ((t.after before).step e').after later := by
    simp [after]
  rw [last] at kept rules
  refine ⟨before, e', later ++ [e], by simp, loads,
    Run.throughout_append.2 ⟨since, kept, trivial⟩, ?_⟩
  rw [rules, list, links, edits_concat]

/-- After any events stored rules are current, and every store inherits its rules. -/
theorem coherent_after (hm : Medium.Faithful σ kept) (hk : ∀ rs, kept (Rule.encodeList rs))
    (m : σ) (ids : Supply) (es : List (Event σ)) (spares : ∀ e ∈ es, e.Spares) :
    ((start m ids).after es).Working ∧ ((start m ids).after es).Current ∧
      ∀ k s h, ((start m ids).after es).stores[k]? = some (s, h) →
        (start m ids).Inherits es k s := by
  induction es using List.reverseRecOn with
  | nil =>
    have unopened (k : Nat) : ((start m ids).after []).stores[k]? = none := rfl
    refine ⟨fun k s h hs => ?_, fun area k written => ?_, fun k s h hs => ?_⟩
    · cases (unopened k).symm.trans hs
    · cases written
    · cases (unopened k).symm.trans hs
  | append_singleton es e ih =>
    simp only [List.forall_mem_append, List.forall_mem_singleton] at spares
    obtain ⟨working, current, inherits⟩ := ih spares.1
    rw [after_concat]
    have effect := effect hm hk working e
    refine ⟨fun k s h hs => (effect.rules working hs).1, effect.current current spares.2,
      fun k s h hs => ?_⟩
    rcases (effect.rules working hs).2 with ⟨loads, rules⟩ | ⟨kept, s', hs', links, rules⟩
    · exact inherits_of_loads loads rules
    · exact (inherits k s' h hs').concat kept links rules

/-- A change that is delivered leaves the rules of all stores. -/
theorem rules_handle (t : Commons σ) (k : Nat) (c : Change) {j : Nat} {s : Store} {h : Nat}
    (hs : (t.step (.handle k c)).stores[j]? = some (s, h)) :
    ∃ s', t.stores[j]? = some (s', h) ∧ s.rules = s'.rules := by
  cases hj : t.stores[k]? with
  | none =>
    simp only [step, hj] at hs
    exact ⟨s, hs, rfl⟩
  | some x =>
    obtain ⟨r, l⟩ := x
    simp only [step, hj] at hs
    rcases Store.of_getElem?_set hs with ⟨rfl, hx⟩ | ⟨-, hs⟩
    · cases hx
      exact ⟨r, hj, r.handle_rules c⟩
    · exact ⟨s, hs, rfl⟩

/-- What is stored of rules is what their author lists now, from the first rules on that a store
writes. Every store lists what it loaded and changed itself, and changes that are delivered leave
all lists. -/
structure LastWins (t : Commons σ) (es : List (Event σ)) : Prop where
  current : (t.after es).Current
  written : ∀ before later area, es = before ++ later →
    (t.after before).author ⟨area, Store.rulesKey⟩ ≠ none →
    (t.after es).author ⟨area, Store.rulesKey⟩ ≠ none
  inherits : ∀ (k : Nat) (s : Store) (h : Nat), (t.after es).stores[k]? = some (s, h) →
    t.Inherits es k s
  handled : ∀ k c (j : Nat) (s : Store) (h : Nat),
    ((t.after es).step (.handle k c)).stores[j]? = some (s, h) →
    ∃ s', (t.after es).stores[j]? = some (s', h) ∧ s.rules = s'.rules

/-- Whatever stores do on a storage that they share, the last write of rules wins. -/
theorem lastWins_start (hm : Medium.Faithful σ kept) (hk : ∀ rs, kept (Rule.encodeList rs))
    (m : σ) (ids : Supply) (es : List (Event σ)) (spares : ∀ e ∈ es, e.Spares) :
    (start m ids).LastWins es := by
  obtain ⟨-, current, inherits⟩ := coherent_after hm hk m ids es spares
  refine ⟨current, fun before later area split written => ?_, inherits,
    fun k c j s h => rules_handle _ k c⟩
  subst split
  obtain ⟨working, -, -⟩ := coherent_after hm hk m ids before
    fun e he => spares e (List.mem_append_left later he)
  have rest : (start m ids).after (before ++ later) = ((start m ids).after before).after later := by
    simp [after]
  rw [rest]
  exact written_after hm hk working later written

/-- Whatever stores do that share a memory, or a database through any number of connections, the
last write of rules wins as a whole, as long as nobody else writes them. -/
theorem lastWins (ids : Supply) :
    (∀ (m : Memory) (es : List (Event Memory)), (∀ e ∈ es, e.Spares) →
      (start m ids).LastWins es) ∧
    ∀ (f : Pool) (es : List (Event Pool)), (∀ e ∈ es, e.Spares) → (start f ids).LastWins es :=
  ⟨fun m es => lastWins_start Memory.faithful (fun _ => trivial) m ids es,
    fun f es => lastWins_start Pool.faithful Rule.read?_print_encodeList f ids es⟩

/-- A write under another key leaves all rules. -/
theorem spares_write (hm : Medium.Faithful σ kept) {h : Nat} {p : Place} {v : Json} {f : σ → σ}
    (written : ∀ m, Medium.write (Handled.turn h m) p v = .ok (f m))
    (other : p.key ≠ Store.rulesKey) : (Event.outside f).Spares := by
  intro m area
  have place : (⟨area, Store.rulesKey⟩ : Place) ≠ p := fun same => other (same ▸ rfl)
  exact (hm.read_other (written m) place).trans (Handled.read_turn h m _)

/-- A poll leaves all rules. -/
theorem spares_poll (h : Nat) : (Event.outside fun f : Pool =>
    (Handled.turn h f).withSession (Handled.turn h f).session.poll.2).Spares := by
  intro f area
  have rows : (Handled.turn h f).session.poll.2.database = f.database := Session.database_poll _
  change (Pool.withSession _ _).session.get _ = f.session.get _
  rw [Pool.session_withSession]
  unfold Session.get
  rw [rows]
  rfl

/-- Two stores share a memory, and two others a database through two connections. In the memory the
first store mints an id and then removes a rule. The second stores, which do not hear of the first
ones, write the lists that they have loaded. -/
theorem lastWins_unaware :
    let rules : Place := ⟨.sync, Store.rulesKey⟩
    let stored : Json := .array [.object [("id", .string "a")], .object []]
    let rate : Json := .object [("hourly_rate", .number (.natural 20))]
    let t := start (⟨[(rules, stored)], .empty⟩ : Memory) (.from 0)
    let u := start (⟨.empty, fun _ => ⟨[], 0, 0, .empty⟩, 0⟩ : Pool) (.from 0)
    let es : List (Event Memory) := [.join 0 true, .join 0 true, .act 0 (.call (.delete "a")),
      .handle 1 ⟨rules, none, none⟩, .outside (·.set ⟨.sync, Store.settingsKey⟩ rate),
      .act 1 .persistRules]
    let fs : List (Event Pool) := [.join 0 true, .join 1 true, .act 0 .persistRules,
      .outside fun f => (Handled.turn 1 f).withSession (Handled.turn 1 f).session.poll.2,
      .act 1 .persistRules]
    ((t.after es).author rules = some 1 ∧ t.LastWins es) ∧
      (u.after fs).author rules = some 1 ∧ u.LastWins fs := by
  intro rules stored rate t u es fs
  have written : ∀ e ∈ es, e.Spares := by
    have spares : (Event.outside fun m : Memory =>
        m.set ⟨.sync, Store.settingsKey⟩ rate).Spares :=
      spares_write Memory.faithful (h := 0) (fun _ => rfl) (by decide)
    simpa [es, Event.Spares] using spares
  have polled : ∀ e ∈ fs, e.Spares := by
    simpa [fs, Event.Spares] using spares_poll 1
  obtain ⟨memory, pool⟩ := lastWins (.from 0)
  refine ⟨⟨?_, memory _ es written⟩, ?_, pool _ fs polled⟩
  · decide +kernel
  · decide +kernel

end Commons

end Reroute
