import Reroute.Proofs.Command.Naming
import Reroute.Proofs.Json.Spelling
import Reroute.Proofs.Store.Loading

/-!
# Which loaded rules can be told apart

Ids are kept as texts, a number as it is written. Different numbers are written differently, and so
two items that bring different ids make rules of one id only if one brings a number and the other
one the text as which that number is written. Ids that are minted are new. All other rules can be
looked up and deleted by their ids.

## Main definitions

* `Rule.idValue?` — the value that a stored item brings as its id, if that is usable.
* `Rule.Spells` — an item brings a number as its id, and another one the text of that number.

## Main results

* `Rule.givenId_eq_iff` — which items make rules of one id.
* `Opened.loadRules_addressable` — which of the rules that are loaded are found by their ids,
  `Opened.exists_unaddressed` — not all of them.
-/

namespace Reroute

/-- Values that are kept from different places of a list differ, if all that are kept do. -/
theorem eq_of_filterMap {α β : Type} {f : α → Option β} {vs : List α}
    (distinct : (vs.filterMap f).Nodup) {i j : Nat} {v w : α} {b : β} (hv : vs[i]? = some v)
    (hw : vs[j]? = some w) (keepsV : f v = some b) (keepsW : f w = some b) : i = j := by
  have apart := List.pairwise_iff_getElem.1 (List.pairwise_filterMap.1 distinct)
  obtain ⟨hi, rfl⟩ := List.getElem?_eq_some_iff.1 hv
  obtain ⟨hj, rfl⟩ := List.getElem?_eq_some_iff.1 hw
  rcases Nat.lt_trichotomy i j with less | same | less
  · exact absurd rfl (apart i j hi hj less b keepsV b keepsW)
  · exact same
  · exact absurd rfl (apart j i hj hi less b keepsW b keepsV)

namespace Rule

/-! ## Ids and their texts -/

/-- The value that a stored item brings as its id, if that is usable. -/
def idValue? (v : Json) : Option Json := if (storedId? v).isSome then v.get? "id" else none

/-- An item brings a number as its id, and another one the text as which this number is written. -/
def Spells (v w : Json) : Prop :=
  ∃ n : Json.Number, v.get? "id" = some (.number n) ∧
    w.get? "id" = some (.string (String.ofList n.chars))

instance (v w : Json) : Decidable (Spells v w) :=
  match number : v.get? "id" with
  | some (.number n) =>
    decidable_of_iff (w.get? "id" = some (.string (String.ofList n.chars)))
      ⟨fun text => ⟨n, number, text⟩, fun ⟨m, own, text⟩ => by
        cases number.symm.trans own
        exact text⟩
  | none | some .null | some (.bool _) | some (.string _) | some (.array _) | some (.object _) =>
    isFalse fun ⟨n, own, _⟩ => by cases number.symm.trans own

variable {v w : Json} {id : String}

/-- A usable id is a text that is not empty, or the text of a number. -/
theorem storedId?_eq_some_iff : storedId? v = some id ↔
    v.get? "id" = some (.string id) ∧ id ≠ "" ∨
      ∃ n : Json.Number, v.get? "id" = some (.number n) ∧ String.ofList n.chars = id := by
  unfold storedId?
  split
  · rename_i s own
    by_cases blank : s = ""
    · simp [own, blank]
    · have named : s = id → id ≠ "" := fun same => same ▸ blank
      simpa [own, blank] using named
  · rename_i n own
    simp [own]
  · rename_i text number
    refine ⟨nofun, ?_⟩
    rintro (⟨own, -⟩ | ⟨n, own, -⟩)
    · exact absurd own (text id)
    · exact absurd own (number n)

theorem idValue?_of_storedId? (h : storedId? v = some id) : idValue? v = v.get? "id" := by
  simp [idValue?, h]

theorem ofList_chars_ne_empty (n : Json.Number) : String.ofList n.chars ≠ "" := by
  simpa [← String.toList_inj] using n.chars_ne_nil

/-- A number and its text are the same id. -/
theorem Spells.storedId? (h : Spells v w) : storedId? v = storedId? w := by
  obtain ⟨n, number, text⟩ := h
  rw [storedId?_eq_some_iff.2 (.inr ⟨n, number, rfl⟩),
    storedId?_eq_some_iff.2 (.inl ⟨text, ofList_chars_ne_empty n⟩)]

/-- No item spells its own id. -/
theorem not_spells_self (v : Json) : ¬Spells v v := by
  rintro ⟨n, number, text⟩
  cases number.symm.trans text

theorem Spells.isSome (h : Spells v w) : ∃ id, Rule.storedId? v = some id := by
  obtain ⟨n, number, -⟩ := h
  exact ⟨_, storedId?_eq_some_iff.2 (.inr ⟨n, number, rfl⟩)⟩

/-- Items that bring the same id bring the same value, unless one spells the other. -/
theorem eq_or_spells (hv : storedId? v = some id) (hw : storedId? w = some id) :
    v.get? "id" = w.get? "id" ∨ Spells v w ∨ Spells w v := by
  rcases storedId?_eq_some_iff.1 hv with ⟨text, -⟩ | ⟨n, number, written⟩ <;>
  rcases storedId?_eq_some_iff.1 hw with ⟨text', -⟩ | ⟨n', number', written'⟩
  · exact .inl (text.trans text'.symm)
  · exact .inr (.inr ⟨n', number', written' ▸ text⟩)
  · exact .inr (.inl ⟨n, number, written ▸ text'⟩)
  · have same : n.chars = n'.chars := String.ofList_injective (written.trans written'.symm)
    rw [number, number', Json.Number.chars_injective same]
    exact .inl rfl

/-! ## Rules of one id -/

/-- If usable ids differ as values and new ids are new, two items make rules of one id if and only
if one of them spells the id of the other. -/
theorem givenId_eq_iff {ids : Supply} {vs : List Json} (distinct : (vs.filterMap idValue?).Nodup)
    (fresh : (ids.next (wanting vs)).Nodup)
    (new : ∀ id ∈ ids.next (wanting vs), id ∉ vs.filterMap storedId?) {i j : Nat}
    (hv : vs[i]? = some v) (hw : vs[j]? = some w) (differ : i ≠ j) :
    givenId ids (vs.take i) v = givenId ids (vs.take j) w ↔ Spells v w ∨ Spells w v := by
  constructor
  · intro same
    cases ownV : storedId? v with
    | none => exact absurd (eq_of_givenId fresh new hv ownV hw same.symm) (Ne.symm differ)
    | some a =>
      cases ownW : storedId? w with
      | none => exact absurd (eq_of_givenId fresh new hw ownW hv same) differ
      | some b =>
        obtain rfl : a = b := by simpa [givenId, ownV, ownW] using same
        refine (eq_or_spells ownV ownW).resolve_left fun value => differ ?_
        obtain ⟨x, keeps⟩ : ∃ x, v.get? "id" = some x := by
          rcases storedId?_eq_some_iff.1 ownV with ⟨text, -⟩ | ⟨n, number, -⟩
          exacts [⟨_, text⟩, ⟨_, number⟩]
        exact eq_of_filterMap distinct hv hw ((idValue?_of_storedId? ownV).trans keeps)
          ((idValue?_of_storedId? ownW).trans (value ▸ keeps))
  · have given {v w : Json} {before before' : List Json} (h : Spells v w) :
        givenId ids before v = givenId ids before' w := by
      obtain ⟨id, own⟩ := h.isSome
      rw [givenId, givenId, ← h.storedId?, own]
      rfl
    rintro (h | h)
    · exact given h
    · exact (given h).symm

/-- Ids differ if and only if no two places hold rules of one id. -/
theorem nodup_ids_iff {rs : List Rule} : (ids rs).Nodup ↔ ∀ (i : Nat) (r : Rule), rs[i]? = some r →
    ∀ (j : Nat) (q : Rule), rs[j]? = some q → q.id = r.id → j = i := by
  constructor
  · intro distinct i r hr j q hq same
    have kept : rs.filterMap (some ∘ Rule.id) = ids rs := congrFun List.filterMap_eq_map rs
    rw [← kept] at distinct
    exact eq_of_filterMap distinct hq hr (congrArg some same) rfl
  · intro alone
    rw [ids, List.Nodup, List.pairwise_map, List.pairwise_iff_getElem]
    intro i j hi hj less same
    have := alone j _ (List.getElem?_eq_getElem hj) i _ (List.getElem?_eq_getElem hi) same
    omega

end Rule

namespace Opened

variable {σ : Type} [Medium σ]

/-! ## Rules that are found -/

/-- The rule at a place has an id of its own, by which it is looked up and deleted. -/
structure Addressed (o : Opened σ) (i : Nat) (r : Rule) : Prop where
  alone : ∀ (j : Nat) (q : Rule), o.store.rules[j]? = some q → q.id = r.id → j = i
  found : o.store.rule? r.id = some r
  deleted : o.Lists (.delete r.id) r (o.store.rules.eraseIdx i)

theorem addressed_iff {o : Opened σ} {i : Nat} {r : Rule} (entry : o.store.rules[i]? = some r) :
    o.Addressed i r ↔ ∀ (j : Nat) (q : Rule), o.store.rules[j]? = some q → q.id = r.id → j = i := by
  refine ⟨Addressed.alone, fun alone => ?_⟩
  obtain ⟨place, own⟩ := List.getElem?_eq_some_iff.1 entry
  have list : o.store.rules = o.store.rules.take i ++ r :: o.store.rules.drop (i + 1) := by
    rw [← own, List.getElem_cons_drop, List.take_append_drop]
  have first : ∀ q ∈ o.store.rules.take i, q.id ≠ r.id := by
    intro q member same
    obtain ⟨j, before, rfl⟩ := List.mem_take_iff_getElem.1 member
    have := alone j _ (List.getElem?_eq_getElem (by omega)) same
    omega
  have deleted : o.ActsOn _ r _ (.delete r.id) := actsOn_first list first rfl
  refine ⟨alone, Store.rule?_of_first list first, ?_⟩
  rw [List.eraseIdx_eq_take_drop_succ]
  exact deleted

section Loaded

variable {o p : Opened σ} {i j : Nat} {v w : Json} {r q : Rule}

/-- The usable ids that are stored differ as values, and the ids to come are new. -/
structure Distinguished (o : Opened σ) : Prop where
  distinct : (o.items.filterMap Rule.idValue?).Nodup
  fresh : (o.ids.next (Rule.wanting o.items)).Nodup
  new : ∀ id ∈ o.ids.next (Rule.wanting o.items), id ∉ Rule.storedIds o.listed

/-- The rules of different items have the same id if and only if one item spells the id of the
other. -/
theorem Distinguished.id_eq_iff (h : o.Distinguished) (hv : o.items[i]? = some v)
    (hw : o.items[j]? = some w) (hr : o.loadRules.store.rules[i]? = some r)
    (hq : o.loadRules.store.rules[j]? = some q) (differ : i ≠ j) :
    r.id = q.id ↔ Rule.Spells v w ∨ Rule.Spells w v := by
  obtain ⟨item, entry, given⟩ := given_of_loadRules hr
  obtain ⟨item', entry', given'⟩ := given_of_loadRules hq
  obtain rfl : v = item := Option.some.inj (hv.symm.trans entry)
  obtain rfl : w = item' := Option.some.inj (hw.symm.trans entry')
  rw [given, given']
  exact Rule.givenId_eq_iff h.distinct h.fresh h.new hv hw differ

/-- Every item makes a rule at its place. -/
theorem exists_rule (hv : o.items[i]? = some v) :
    ∃ r, o.loadRules.store.rules[i]? = some r := by
  rw [loadRules_rules_mapIdx, List.getElem?_mapIdx, hv]
  exact ⟨_, rfl⟩

/-- No other rule has the id of the rule of an item if and only if the item neither spells the id of
another one nor has its own spelt. -/
theorem Distinguished.alone_iff (h : o.Distinguished) (hv : o.items[i]? = some v)
    (hr : o.loadRules.store.rules[i]? = some r) :
    (∀ (j : Nat) (q : Rule), o.loadRules.store.rules[j]? = some q → q.id = r.id → j = i) ↔
      ∀ w ∈ o.items, ¬Rule.Spells v w ∧ ¬Rule.Spells w v := by
  constructor
  · intro alone w member
    rw [← not_or]
    intro spells
    obtain ⟨j, hw⟩ := List.mem_iff_getElem?.1 member
    obtain ⟨q, hq⟩ := exists_rule hw
    by_cases place : i = j
    · subst place
      obtain rfl : v = w := Option.some.inj (hv.symm.trans hw)
      exact Rule.not_spells_self v (spells.elim id id)
    · exact place (alone j q hq ((h.id_eq_iff hv hw hr hq place).2 spells).symm).symm
  · intro unspelt j q hq same
    obtain ⟨w, hw, -⟩ := given_of_loadRules hq
    by_contra differ
    have spells := (h.id_eq_iff hv hw hr hq (Ne.symm differ)).1 same.symm
    exact not_or.2 (unspelt w (List.mem_of_getElem? hw)) spells

/-- Let the usable ids that are stored differ as values, and the ids to come be new. Then the rules
of two items have the same id if and only if one item brings a number and the other its text. All
ids differ if and only if no two items are so, and a rule whose item is in no such pair is the only
one of its id, is looked up by it, and is deleted by it without another. -/
theorem loadRules_addressable (h : o.Distinguished)
    (loaded : p.store.rules = o.loadRules.store.rules) :
    (∀ (i j : Nat) (v w : Json) (r q : Rule), i ≠ j → o.items[i]? = some v →
      o.items[j]? = some w → p.store.rules[i]? = some r → p.store.rules[j]? = some q →
      (r.id = q.id ↔ Rule.Spells v w ∨ Rule.Spells w v)) ∧
    ((Rule.ids p.store.rules).Nodup ↔ ∀ v ∈ o.items, ∀ w ∈ o.items, ¬Rule.Spells v w) ∧
    p.store.rules.length = o.items.length ∧
    ∀ (i : Nat) (v : Json) (r : Rule), o.items[i]? = some v → p.store.rules[i]? = some r →
      (p.Addressed i r ↔ ∀ w ∈ o.items, ¬Rule.Spells v w ∧ ¬Rule.Spells w v) := by
  rw [loaded]
  refine ⟨fun i j v w r q differ hv hw hr hq => h.id_eq_iff hv hw hr hq differ, ?_, ?_,
    fun i v r hv hr => ?_⟩
  · rw [Rule.nodup_ids_iff]
    constructor
    · intro alone v hv w hw spells
      obtain ⟨i, entry⟩ := List.mem_iff_getElem?.1 hv
      obtain ⟨r, hr⟩ := exists_rule entry
      exact ((h.alone_iff entry hr).1 (alone i r hr) w hw).1 spells
    · intro unspelt i r hr
      obtain ⟨v, hv, -⟩ := given_of_loadRules hr
      have member := List.mem_of_getElem? hv
      exact (h.alone_iff hv hr).2 fun w hw => ⟨unspelt v member w hw, unspelt w hw v member⟩
  · rw [loadRules_rules_mapIdx, List.length_mapIdx]
  · rw [addressed_iff (loaded ▸ hr), loaded]
    exact h.alone_iff hv hr

end Loaded

/-- A number and its text are stored as ids, a text, and an item without an id. The first rules have
the same id, the third one is found by its own. -/
theorem loadRules_addressable_mixed :
    let links := Links.working true
    let ids := Supply.from 0
    let stored : Json := .array [.object [("id", .number (.natural 7))],
      .object [("id", .string "7")], .object [("id", .string "a")], .object []]
    let memory : Memory := ⟨[(⟨.sync, Store.rulesKey⟩, stored)], .empty⟩
    let o : Opened Memory := ⟨.new links, memory, ids⟩
    let p := openOn links memory ids
    o.Distinguished ∧ p.store.rules = o.loadRules.store.rules ∧
      ¬(Rule.ids p.store.rules).Nodup ∧ p.Addressed 2 ⟨"a", false, "", ""⟩ := by
  intro links ids stored memory o p
  have distinguished : o.Distinguished :=
    ⟨by decide +kernel, by decide +kernel, by decide +kernel⟩
  have loaded : p.store.rules = o.loadRules.store.rules := by decide +kernel
  have items : o.items = [.object [("id", .number (.natural 7))],
    .object [("id", .string "7")], .object [("id", .string "a")], .object []] := by decide +kernel
  obtain ⟨-, distinct, -, addressed⟩ := loadRules_addressable distinguished loaded
  refine ⟨distinguished, loaded, fun nodup => ?_, (addressed 2 (.object [("id", .string "a")]) _
    (by rw [items]; rfl) (by decide +kernel)).2 ?_⟩
  · have unspelt := distinct.1 nodup
    rw [items] at unspelt
    exact absurd unspelt (by decide +kernel)
  · rw [items]
    decide +kernel

/-- A number and its text are stored as ids, which are different values. Both rules have the same
id, by which the first one is looked up and deleted, and the second one is not. -/
theorem exists_unaddressed :
    let item (id : Json) (source : String) : Json := .object [("enabled", .bool true), ("id", id),
      ("source_hostname", .string source), ("target_url", .string "http://c.d/")]
    let stored : Json := .array [item (.number (.natural 7)) "a.b", item (.string "7") "e.f"]
    let memory : Memory := ⟨[(⟨.sync, Store.rulesKey⟩, stored)], .empty⟩
    let o : Opened Memory := ⟨.new (.working true), memory, .from 0⟩
    let p := openOn (.working true) memory (.from 0)
    let first : Rule := ⟨"7", true, "a.b", "http://c.d/"⟩
    let second : Rule := ⟨"7", true, "e.f", "http://c.d/"⟩
    o.Distinguished ∧ p.store.rules = o.loadRules.store.rules ∧ p.store.rules = [first, second] ∧
      p.store.rule? second.id = some first ∧
      (p.call (.delete second.id)).2.store.rules = [second] := by
  refine ⟨⟨?_, ?_, ?_⟩, ?_⟩ <;> decide +kernel

end Opened

end Reroute
