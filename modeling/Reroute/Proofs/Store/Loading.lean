import Reroute.Proofs.Store.RuleList

/-!
# Loading the rules

One pass over the stored items makes the rules, another decides whether they are saved. The two
agree on every item: what is saved is an array with an item that brings no usable id, and what was
saved needs no more ids. So ids are minted once, for this store and for all that come after it.

## Main definitions

* `Rule.Lacking` — a stored array with an item that brings no usable id.
* `Rule.givenId` — the id of the rule of an item, which the items before it determine.
* `Opened.LoadsOnce` — what loading the rules does, and that a second loading does nothing more.

## Main results

* `Rule.ofItems_eq_mapIdx` — the rule of each item, and the ids that are taken.
* `Rule.eq_of_givenId` — an id that is minted is the id of one item only.
* `Opened.loadRules_once` — in memory and in a database, the rules are loaded once.
-/

namespace Reroute

/-- The next ids of a supply. -/
def Supply.next (ids : Supply) (k : Nat) : List String :=
  (List.range k).map fun n => ids.id (ids.used + n)

namespace Rule

/-! ## Items without an id -/

/-- The value is an array with an item that brings no usable id. -/
def Lacking (v : Json) : Prop := ∃ items, v = .array items ∧ ∃ item ∈ items, storedId? item = none

theorem needsIds_iff {v : Json} : needsIds v = true ↔ Lacking v := by
  cases v with
  | array items => simp [needsIds, Lacking, Json.items?]
  | _ => simp [needsIds, Lacking, Json.items?]

theorem needsIds_eq_false_iff {v : Json} : needsIds v = false ↔ ¬Lacking v := by
  rw [← needsIds_iff, Bool.not_eq_true]

/-- Rules that have ids lack none once they are stored. -/
theorem not_lacking_encodeList {rs : List Rule} (named : ∀ r ∈ rs, r.id ≠ "") :
    ¬Lacking (encodeList rs) :=
  needsIds_eq_false_iff.1 (needsIds_encodeList named)

/-- How many of some items bring no usable id. -/
def wanting (vs : List Json) : Nat := vs.countP fun v => (storedId? v).isNone

theorem wanting_cons_some {v : Json} {id : String} (h : storedId? v = some id) (vs : List Json) :
    wanting (v :: vs) = wanting vs := by
  simp [wanting, h]

theorem wanting_cons_none {v : Json} (h : storedId? v = none) (vs : List Json) :
    wanting (v :: vs) = wanting vs + 1 := by
  simp [wanting, h]

/-- An item without an id counts for all items after it. -/
theorem wanting_take_lt {vs : List Json} {v : Json} {i j : Nat} (hv : vs[i]? = some v)
    (none : storedId? v = none) (h : i < j) : wanting (vs.take i) < wanting (vs.take j) := by
  have after : wanting (vs.take (i + 1)) = wanting (vs.take i) + 1 := by
    simp [wanting, List.take_add_one, hv, none]
  have more : wanting (vs.take (i + 1)) ≤ wanting (vs.take j) :=
    (List.take_prefix_take_left h).sublist.countP_le
  omega

/-! ## The rule of each item -/

/-- The id of the rule of an item: its own, or the first that the items before it leave. -/
def givenId (ids : Supply) (before : List Json) (v : Json) : String :=
  (storedId? v).getD (ids.id (ids.used + wanting before))

/-- Each item makes one rule, and as many ids are taken as items bring none. -/
theorem ofItems_eq_mapIdx (vs : List Json) (ids : Supply) :
    ofItems vs ids = (vs.mapIdx fun i v => withId (givenId ids (vs.take i) v) v,
      { ids with used := ids.used + wanting vs }) := by
  -- What is taken for the first item is taken before all others, so the supply is general.
  induction vs generalizing ids with
  | nil => rfl
  | cons v vs ih =>
    rw [ofItems_cons, ih, List.mapIdx_cons]
    cases hid : storedId? v with
    | some id =>
      have first : ofStored v ids = (withId id v, ids) := by simp [ofStored, hid]
      simp [first, givenId, hid, wanting_cons_some hid]
    | none =>
      have first : ofStored v ids = (withId ids.take.1 v, ids.take.2) := by simp [ofStored, hid]
      have later (n : Nat) : ids.used + 1 + n = ids.used + (n + 1) := by omega
      simp [first, givenId, hid, wanting_cons_none hid, Supply.take, later]
      rfl

/-- The items before one without an id want fewer ids than all. -/
theorem wanting_take_lt_wanting {vs : List Json} {v : Json} {i : Nat} (hv : vs[i]? = some v)
    (none : storedId? v = none) : wanting (vs.take i) < wanting vs := by
  obtain ⟨place, -⟩ := List.getElem?_eq_some_iff.1 hv
  simpa using wanting_take_lt hv none place

/-- An id that is minted is one of those that the supply has next. -/
theorem givenId_mem_next (ids : Supply) {vs : List Json} {v : Json} {i : Nat}
    (hv : vs[i]? = some v) (none : storedId? v = none) :
    givenId ids (vs.take i) v ∈ ids.next (wanting vs) := by
  rw [givenId, none]
  exact List.mem_map_of_mem (List.mem_range.2 (wanting_take_lt_wanting hv none))

/-- An id that is minted is the id of one item only, if the supply has different ids next, which
are not stored. -/
theorem eq_of_givenId {ids : Supply} {vs : List Json} (distinct : (ids.next (wanting vs)).Nodup)
    (new : ∀ id ∈ ids.next (wanting vs), id ∉ vs.filterMap storedId?) {i j : Nat} {v w : Json}
    (hv : vs[i]? = some v) (none : storedId? v = none) (hw : vs[j]? = some w)
    (same : givenId ids (vs.take j) w = givenId ids (vs.take i) v) : j = i := by
  cases own : storedId? w with
  | some id =>
    have stored : id ∈ vs.filterMap storedId? :=
      List.mem_filterMap.2 ⟨w, List.mem_of_getElem? hw, own⟩
    have given : givenId ids (vs.take j) w = id := by simp [givenId, own]
    exact absurd stored (new _ (given ▸ same ▸ givenId_mem_next ids hv none))
  | none =>
    simp only [givenId, own, none, Option.getD_none] at same
    have counts := List.inj_on_of_nodup_map distinct
      (List.mem_range.2 (wanting_take_lt_wanting hw own))
      (List.mem_range.2 (wanting_take_lt_wanting hv none)) same
    rcases Nat.lt_trichotomy i j with less | rfl | less
    · have := wanting_take_lt hv none less
      omega
    · rfl
    · have := wanting_take_lt hw own less
      omega

end Rule

namespace Opened

section Loading

variable {σ : Type} [Medium σ]

/-! ## Loading and saving -/

/-- The stored items; what is no array holds none. -/
def items (o : Opened σ) : List Json := o.listed.items?.getD []

/-- What comes of writing the rules that are loaded. -/
def saving (o : Opened σ) : Except StorageError σ :=
  o.store.links.config.write o.medium Store.rulesKey (Rule.encodeList o.loadRules.store.rules)

/-- One rule is loaded from each item. It keeps the id of its item or gets the next of the supply,
and if that one is new, no other rule has it. The rules are written if and only if an item had no
id, and a write that fails changes nothing. If they were saved or did not have to be, whoever finds
the same value stored loads the same rules, and that changes neither ids nor storage. -/
structure LoadsOnce (o : Opened σ) : Prop where
  store : o.loadRules.store = { o.store with rules := o.loadRules.store.rules }
  rules : o.loadRules.store.rules =
    o.items.mapIdx fun i item => Rule.withId (Rule.givenId o.ids (o.items.take i) item) item
  ids : o.loadRules.ids = { o.ids with used := o.ids.used + Rule.wanting o.items }
  named : ∀ r ∈ o.loadRules.store.rules, r.id ≠ ""
  fresh : (o.ids.next (Rule.wanting o.items)).Nodup →
    (∀ id ∈ o.ids.next (Rule.wanting o.items), id ∉ Rule.storedIds o.listed) →
    ∀ i item (r : Rule), o.items[i]? = some item → Rule.storedId? item = none →
    o.loadRules.store.rules[i]? = some r →
    r.id ∉ Rule.storedIds o.listed ∧
      ∀ (j : Nat) (q : Rule), o.loadRules.store.rules[j]? = some q → q.id = r.id → j = i
  saved : Rule.Lacking o.listed → ∀ m, o.saving = .ok m → o.loadRules.medium = m ∧
    o.loadRules.medium ≠ o.medium ∧ o.loadRules.listed = Rule.encodeList o.loadRules.store.rules
  failed : ∀ e, o.saving = .error e → o.loadRules.medium = o.medium
  spared : ¬Rule.Lacking o.listed → o.loadRules.medium = o.medium
  again : ¬Rule.Lacking o.listed ∨ (∃ m, o.saving = .ok m) →
    ∀ (τ : Type) [Medium τ] (p : Opened τ), p.listed = o.loadRules.listed →
      p.loadRules = p.withRules o.loadRules.store.rules

/-! ## What is loaded -/

/-- Saving the rules may change the storage, and nothing else. -/
theorem loadRules_store (o : Opened σ) :
    o.loadRules.store = { o.store with rules := (Rule.listOfStored o.listed o.ids).1 } ∧
      o.loadRules.ids = (Rule.listOfStored o.listed o.ids).2 := by
  rw [loadRules_eq]
  split
  · rcases o.loaded.save_cases Store.rulesKey (Rule.encodeList o.loaded.store.rules) with
      ⟨m, -, saved⟩ | ⟨e, -, saved⟩ <;> rw [persistRules, saved] <;> exact ⟨rfl, rfl⟩
  · exact ⟨rfl, rfl⟩

theorem loadRules_rules (o : Opened σ) :
    o.loadRules.store.rules = (Rule.listOfStored o.listed o.ids).1 :=
  congrArg Store.rules o.loadRules_store.1

theorem loadRules_rules_mapIdx (o : Opened σ) : o.loadRules.store.rules =
    o.items.mapIdx fun i item => Rule.withId (Rule.givenId o.ids (o.items.take i) item) item :=
  o.loadRules_rules.trans (congrArg Prod.fst (Rule.ofItems_eq_mapIdx o.items o.ids))

theorem loadRules_ids (o : Opened σ) :
    o.loadRules.ids = { o.ids with used := o.ids.used + Rule.wanting o.items } :=
  o.loadRules_store.2.trans (congrArg Prod.snd (Rule.ofItems_eq_mapIdx o.items o.ids))

/-- Every rule has the id that is given to its item. -/
theorem given_of_loadRules {o : Opened σ} {i : Nat} {r : Rule}
    (h : o.loadRules.store.rules[i]? = some r) :
    ∃ item, o.items[i]? = some item ∧ r.id = Rule.givenId o.ids (o.items.take i) item := by
  rw [loadRules_rules_mapIdx, List.getElem?_mapIdx, Option.map_eq_some_iff] at h
  obtain ⟨item, entry, rfl⟩ := h
  exact ⟨item, entry, rfl⟩

/-- The rule of an item without an id has an id that is neither stored nor the id of another
rule. -/
theorem minted_of_loadRules {o : Opened σ} (distinct : (o.ids.next (Rule.wanting o.items)).Nodup)
    (new : ∀ id ∈ o.ids.next (Rule.wanting o.items), id ∉ Rule.storedIds o.listed) {i : Nat}
    {item : Json} {r : Rule} (entry : o.items[i]? = some item) (none : Rule.storedId? item = none)
    (rule : o.loadRules.store.rules[i]? = some r) :
    r.id ∉ Rule.storedIds o.listed ∧
      ∀ (j : Nat) (q : Rule), o.loadRules.store.rules[j]? = some q → q.id = r.id → j = i := by
  obtain ⟨own, entry', given⟩ := given_of_loadRules rule
  obtain rfl : item = own := Option.some.inj (entry.symm.trans entry')
  refine ⟨new _ (given ▸ Rule.givenId_mem_next o.ids entry none), fun j q other same => ?_⟩
  obtain ⟨w, place, given'⟩ := given_of_loadRules other
  exact Rule.eq_of_givenId distinct new entry none place (given'.symm.trans (same.trans given))

/-! ## What is saved -/

/-- Rules that need no ids are loaded without a write. -/
theorem loadRules_of_not_lacking {o : Opened σ} (h : ¬Rule.Lacking o.listed) :
    o.loadRules = o.loaded :=
  o.loadRules_eq.trans (if_neg fun needs => h (Rule.needsIds_iff.1 needs))

/-- Rules that need ids are written, which may fail. -/
theorem saving_of_lacking {o : Opened σ} (h : Rule.Lacking o.listed) :
    o.saving = .ok o.loadRules.medium ∨
      ∃ e, o.saving = .error e ∧ o.loadRules.medium = o.medium := by
  have written : o.loadRules = o.loaded.persistRules.2 :=
    o.loadRules_eq.trans (if_pos (Rule.needsIds_iff.2 h))
  rw [saving, loadRules_rules, written, persistRules]
  rcases o.loaded.save_cases Store.rulesKey (Rule.encodeList o.loaded.store.rules) with
    ⟨m, written, saved⟩ | ⟨e, failed, saved⟩
  · rw [saved]
    exact .inl written
  · rw [saved]
    exact .inr ⟨e, failed, rfl⟩

/-- Rules that are not saved leave the storage as it is. -/
theorem medium_of_failed {o : Opened σ} {e : StorageError} (h : o.saving = .error e) :
    o.loadRules.medium = o.medium := by
  by_cases lacking : Rule.Lacking o.listed
  · rcases saving_of_lacking lacking with saved | ⟨-, -, same⟩
    · rw [h] at saved
      cases saved
    · exact same
  · rw [loadRules_of_not_lacking lacking]
    rfl

/-- A value that needs no ids is loaded by everyone alike, and nothing is written. -/
theorem loadRules_of_listed {o : Opened σ} (complete : ¬Rule.Lacking o.loadRules.listed)
    (read : (Rule.listOfStored o.loadRules.listed o.ids).1 = o.loadRules.store.rules)
    {τ : Type} [Medium τ] {p : Opened τ} (same : p.listed = o.loadRules.listed) :
    p.loadRules = p.withRules o.loadRules.store.rules := by
  rw [← same] at complete read
  have list : Rule.listOfStored p.listed p.ids = (o.loadRules.store.rules, p.ids) := by
    rw [Rule.listOfStored_of_needsIds (Rule.needsIds_eq_false_iff.2 complete) o.ids p.ids, read]
  unfold listed at list
  rw [loadRules_of_not_lacking complete, loaded, list]
  rfl

end Loading

section Guarded

variable {σ : Type} [Medium σ] {kept : Json → Prop}

/-- Rules that were saved are what is stored. -/
theorem listed_of_saving (hm : Medium.Faithful σ kept) (hk : ∀ rs, kept (Rule.encodeList rs))
    {o : Opened (Guarded σ)} (h : Rule.Lacking o.listed) {m : Guarded σ}
    (saved : o.saving = .ok m) :
    o.loadRules.medium = m ∧ o.loadRules.listed = Rule.encodeList o.loadRules.store.rules := by
  have medium : o.loadRules.medium = m := by
    rcases saving_of_lacking h with same | ⟨e, failed, -⟩
    · exact Except.ok.inj (same.symm.trans saved)
    · rw [failed] at saved
      cases saved
  refine ⟨medium, ?_⟩
  rw [listed, o.loadRules_store.1, medium]
  unfold saving Link.write at saved
  cases fault : o.store.links.config.fault with
  | some f =>
    -- Behind a fault there is nothing stored, so nothing that lacks an id.
    obtain ⟨items, array, -⟩ := h
    simp only [listed, readOrNull, Link.read, fault] at array
    cases hf : f.reads <;> rw [hf] at array <;> cases array
  | none =>
    simp only [fault] at saved
    obtain ⟨read, -⟩ := Guarded.read_of_write hm saved
    simp only [readOrNull, Link.read, fault, read (hk _), loadRules_rules]

theorem loadsOnce (hm : Medium.Faithful σ kept) (hk : ∀ rs, kept (Rule.encodeList rs))
    (o : Opened (Guarded σ)) (fresh : ∀ n, o.ids.id n ≠ "") : LoadsOnce o := by
  have store : o.loadRules.store = { o.store with rules := o.loadRules.store.rules } := by
    rw [o.loadRules_store.1]
  have named : ∀ r ∈ o.loadRules.store.rules, r.id ≠ "" :=
    fun r hr => Rule.ne_empty_of_mem_listOfStored fresh (o.loadRules_rules ▸ hr)
  have complete := Rule.not_lacking_encodeList named
  refine ⟨store, o.loadRules_rules_mapIdx, o.loadRules_ids, named,
    fun distinct new _ _ _ => minted_of_loadRules distinct new, ?saved,
    fun _ => medium_of_failed, ?spared, ?again⟩
  case saved =>
    intro lacking m saved
    obtain ⟨medium, stored⟩ := listed_of_saving hm hk lacking saved
    refine ⟨medium, fun same => ?_, stored⟩
    have unchanged : o.loadRules.listed = o.listed := by rw [listed, same, store, listed]
    exact complete (stored ▸ unchanged ▸ lacking)
  case spared =>
    intro lacking
    rw [loadRules_of_not_lacking lacking]
    rfl
  case again =>
    intro done τ _ p same
    by_cases lacking : Rule.Lacking o.listed
    · obtain ⟨m, saved⟩ := done.resolve_left (not_not_intro lacking)
      obtain ⟨-, stored⟩ := listed_of_saving hm hk lacking saved
      refine loadRules_of_listed (stored ▸ complete) ?_ same
      rw [stored, Rule.listOfStored_encodeList named]
    · have unchanged : o.loadRules.listed = o.listed := by
        rw [loadRules_of_not_lacking lacking]
        rfl
      refine loadRules_of_listed (unchanged ▸ lacking) ?_ same
      rw [unchanged, loadRules_rules]

/-- In memory and in a database, whether writes fail or not, the rules are loaded once. -/
theorem loadRules_once :
    (∀ o : Opened (Guarded Memory), (∀ n, o.ids.id n ≠ "") → LoadsOnce o) ∧
      ∀ o : Opened (Guarded Session), (∀ n, o.ids.id n ≠ "") → LoadsOnce o :=
  ⟨loadsOnce Memory.faithful fun _ => trivial,
    loadsOnce Session.faithful Rule.read?_print_encodeList⟩

/-- Three of five stored items bring no usable id. In memory the rules are saved, so loading them
again changes nothing. The database cannot be written and stays as it is. -/
theorem loadRules_once_mixed :
    let links := Links.working true
    let ids := Supply.from 0
    let stored : Json := .array [.object [("id", .number (.natural 1))], .object [],
      .object [("id", .string "a")], .number (.natural 42), .object [("id", .string "")]]
    let memory : Memory := ⟨[(⟨.sync, Store.rulesKey⟩, stored)], .empty⟩
    let database := Database.empty.upsert ("sync", Store.rulesKey) (.text stored.print)
    let session : Session := ⟨database, ⟨[], 0, 0, .empty⟩⟩
    let o : Opened (Guarded Memory) := ⟨.new links, ⟨memory, none⟩, ids⟩
    let full : Opened (Guarded Session) := ⟨.new links, ⟨session, some .quotaExceeded⟩, ids⟩
    (Rule.ids o.loadRules.store.rules = ["1", ids.id 0, "a", ids.id 1, ids.id 2] ∧
      (∀ (j : Nat) (q : Rule), o.loadRules.store.rules[j]? = some q → q.id = ids.id 0 → j = 1) ∧
      o.loadRules.medium ≠ o.medium ∧ o.loadRules.loadRules = o.loadRules) ∧
      full.loadRules.medium = full.medium ∧ (∀ r ∈ full.loadRules.store.rules, r.id ≠ "") := by
  intro links ids stored memory database session o full
  obtain ⟨inMemory, inDatabase⟩ := loadRules_once
  have once := inMemory o (Supply.from_ne_empty 0)
  have unsaved := inDatabase full (Supply.from_ne_empty 0)
  have read : o.listed = stored := by decide +kernel
  have lacking : Rule.Lacking o.listed := read ▸ ⟨_, rfl, .object [], by simp, rfl⟩
  have loaded : Rule.ids o.loadRules.store.rules = ["1", ids.id 0, "a", ids.id 1, ids.id 2] := by
    rw [once.rules, items, read]
    decide +kernel
  have unique := (once.fresh (by rw [items, read]; decide +kernel)
    (by rw [items, read]; decide +kernel) 1 (.object []) ⟨ids.id 0, false, "", ""⟩
    (by rw [items, read]; rfl) rfl (by rw [once.rules, items, read]; rfl)).2
  have settled : o.loadRules.loadRules = o.loadRules := once.again (.inr ⟨_, rfl⟩) _ o.loadRules rfl
  exact ⟨⟨loaded, unique, (once.saved lacking _ rfl).2.1, settled⟩,
    unsaved.failed .quotaExceeded rfl, unsaved.named⟩

end Guarded

end Opened

end Reroute
