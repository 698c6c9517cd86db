import Mathlib.Data.List.Nodup
import Reroute.Proofs.Rule.Ids
import Reroute.Proofs.Store.Operations
import Reroute.Proofs.Store.Outcome

/-!
# The rules of a store are an ordered map

Nothing forbids two rules of one id, and rules are looked up by the first match. But ids that are
minted are new, ids that are loaded differ if the stored ones do, and changes keep ids. So at most
one rule matches, and every change concerns that rule only.

## Main definitions

* `Call.Edits` — what a call makes of a list of rules.
* `Opened.Keyed` — rules have different ids, and the ids to come are new.
* `Opened.Edited` — a call edits the rules as its answer tells.
* `Opened.Event`, `Opened.step` — what may happen to a store whose writes may fail.

## Main results

* `Opened.Keyed.edited` — calls edit the rules of a store where ids differ.
* `Opened.Keyed.step` — every event keeps ids different.
* `Opened.edited_after` — so calls edit the rules of every store that was opened.
-/

namespace Reroute

namespace Rule

/-! ## Lists of rules with different ids -/

/-- A rule is replaced where its id stands. -/
theorem set_eq_map {rs : List Rule} (distinct : (ids rs).Nodup) {i : Nat} {q : Rule}
    (h : rs[i]? = some q) (r : Rule) :
    rs.set i r = rs.map fun p => if p.id = q.id then r else p := by
  induction rs generalizing i with
  | nil => cases h
  | cons p rs ih =>
    obtain ⟨other, distinct⟩ := List.nodup_cons.1 distinct
    cases i with
    | zero =>
      obtain rfl : p = q := Option.some.inj h
      have rest : ∀ t ∈ rs, (if t.id = p.id then r else t) = t :=
        fun t ht => if_neg fun same => other (mem_ids.2 ⟨t, ht, same⟩)
      simpa using ((List.map_congr_left rest).trans (List.map_id' rs)).symm
    | succ i =>
      have member : q ∈ rs := List.mem_of_getElem? h
      have differ : p.id ≠ q.id := fun same => other (mem_ids.2 ⟨q, member, same.symm⟩)
      simp [ih distinct h, differ]

/-- A rule is removed where its id stands. -/
theorem eraseIdx_eq_filter {rs : List Rule} (distinct : (ids rs).Nodup) {i : Nat} {q : Rule}
    (h : rs[i]? = some q) : rs.eraseIdx i = rs.filter fun p => p.id ≠ q.id := by
  induction rs generalizing i with
  | nil => cases h
  | cons p rs ih =>
    obtain ⟨other, distinct⟩ := List.nodup_cons.1 distinct
    cases i with
    | zero =>
      obtain rfl : p = q := Option.some.inj h
      have rest : ∀ t ∈ rs, t.id ≠ p.id := fun t ht same => other (mem_ids.2 ⟨t, ht, same⟩)
      simpa using (List.filter_eq_self.2 (by simpa using rest)).symm
    | succ i =>
      have member : q ∈ rs := List.mem_of_getElem? h
      have differ : p.id ≠ q.id := fun same => other (mem_ids.2 ⟨q, member, same.symm⟩)
      simp [ih distinct h, differ]

end Rule

namespace Call

/-! ## Edits -/

/-- What a call makes of a list of rules when it answers with a rule. -/
def Edits (r : Rule) (before after : List Rule) : Call → Prop
  | .add source target =>
    (Rule.Draft.new source target).fields = .ok (r.source, r.target) ∧ r.enabled = true ∧
      r.id ∉ Rule.ids before ∧ after = before ++ [r]
  | .update id edit => ∃ q ∈ before, q.id = id ∧ r.id = id ∧ r.enabled = q.enabled ∧
      (q.apply edit).fields = .ok (r.source, r.target) ∧
      after = before.map fun p => if p.id = id then r else p
  | .enable id enabled => ∃ q ∈ before, q.id = id ∧ r = { q with enabled } ∧
      after = before.map fun p => if p.id = id then { p with enabled } else p
  | .delete id => r ∈ before ∧ r.id = id ∧ after = before.filter fun p => p.id ≠ id
  | .rate _ => False

/-- The ids after an edit are those before it, without some or with a new one at the end. -/
theorem Edits.ids {r : Rule} {before after : List Rule} {c : Call} (h : c.Edits r before after) :
    (Rule.ids after).Sublist (Rule.ids before) ∨
      r.id ∉ Rule.ids before ∧ Rule.ids after = Rule.ids before ++ [r.id] := by
  cases c with
  | add source target =>
    obtain ⟨-, -, new, rfl⟩ := h
    exact .inr ⟨new, by simp [Rule.ids]⟩
  | update id edit =>
    obtain ⟨q, -, -, own, -, -, rfl⟩ := h
    have kept : ∀ p : Rule, (if p.id = id then r else p).id = p.id := by grind
    exact .inl (by simp [Rule.ids, Function.comp_def, kept])
  | enable id enabled =>
    obtain ⟨q, -, -, -, rfl⟩ := h
    have kept : ∀ p : Rule, (if p.id = id then { p with enabled } else p).id = p.id := by grind
    exact .inl (by simp [Rule.ids, Function.comp_def, kept])
  | delete id =>
    obtain ⟨-, -, rfl⟩ := h
    exact .inl (List.filter_sublist.map _)
  | rate raw => exact h.elim

/-- A call that comes to new rules edits the old ones, where ids differ. It takes an id from the
supply if and only if it adds a rule with that id. -/
theorem edits_of_plan {s : Store} {ids ids' : Supply} {c : Call} {r : Rule} {rules : List Rule}
    (named : ∀ q ∈ s.rules, q.id ≠ "") (distinct : (Rule.ids s.rules).Nodup)
    (fresh : ids.Fresh (Rule.ids s.rules)) (h : c.plan s ids = .rules r rules ids') :
    c.Edits r s.rules rules ∧ (ids' = ids ∧ r.id ∈ Rule.ids s.rules ∨
      ids' = ids.take.2 ∧ r.id = ids.take.1) := by
  have found {id : String} {k : Nat → Rule → Plan} (h : find s id k = .rules r rules ids') :
      ∃ i q, s.rules[i]? = some q ∧ q ∈ s.rules ∧ q.id = id ∧ k i q = .rules r rules ids' := by
    rcases find_spec s id k with ⟨-, none⟩ | ⟨i, q, entry, own, hf⟩
    · rw [none] at h
      cases h
    · exact ⟨i, q, entry, List.mem_of_getElem? entry, own, hf ▸ h⟩
  cases c with
  | add source target =>
    obtain ⟨rfl, enabled, fields, claimed⟩ := accept_rules h
    have minted : ids.take = (r.id, ids') := claimed
    have own : r.id = ids.take.1 := (congrArg Prod.fst minted).symm
    exact ⟨⟨fields, enabled, own ▸ fresh.take_notMem, rfl⟩,
      .inr ⟨(congrArg Prod.snd minted).symm, own⟩⟩
  | update id edit =>
    obtain ⟨i, q, entry, member, rfl, planned⟩ := found h
    obtain ⟨rfl, enabled, fields, claimed⟩ := accept_rules planned
    have kept : (q.apply edit).claimId ids = (q.id, ids) := if_neg (named q member)
    obtain ⟨own, rest⟩ := Prod.mk.inj (claimed.symm.trans kept)
    exact ⟨⟨q, member, rfl, own, enabled, fields, Rule.set_eq_map distinct entry r⟩,
      .inl ⟨rest, Rule.mem_ids.2 ⟨q, member, own.symm⟩⟩⟩
  | enable id enabled =>
    obtain ⟨i, q, entry, member, rfl, planned⟩ := found h
    cases planned
    refine ⟨⟨q, member, rfl, rfl, ?_⟩, .inl ⟨rfl, Rule.mem_ids.2 ⟨q, member, rfl⟩⟩⟩
    rw [Rule.set_eq_map distinct entry]
    refine List.map_congr_left fun p hp => ?_
    split
    · rename_i same
      rw [List.inj_on_of_nodup_map distinct hp member same]
    · rfl
  | delete id =>
    obtain ⟨i, q, entry, member, rfl, planned⟩ := found h
    cases planned
    exact ⟨⟨member, rfl, Rule.eraseIdx_eq_filter distinct entry⟩,
      .inl ⟨rfl, Rule.mem_ids.2 ⟨r, member, rfl⟩⟩⟩
  | rate raw =>
    simp only [plan] at h
    split at h <;> cases h

end Call

namespace Opened

section Keyed

variable {σ : Type} [Medium σ]

/-- What is stored of the rules. -/
def listed (o : Opened σ) : Json := readOrNull o.medium o.store.links.config Store.rulesKey

/-- The rules have different ids, as have the stored ones, and the ids to come are new. -/
structure Keyed (o : Opened σ) : Prop where
  named : ∀ r ∈ o.store.rules, r.id ≠ ""
  distinct : (Rule.ids o.store.rules).Nodup
  stored : (Rule.storedIds o.listed).Nodup
  fresh : o.ids.Fresh (Rule.ids o.store.rules ++ Rule.storedIds o.listed)

theorem Keyed.fresh_rules {o : Opened σ} (h : o.Keyed) : o.ids.Fresh (Rule.ids o.store.rules) :=
  h.fresh.mono fun _ => List.mem_append_left _

/-- A call edits the rules if it answers with one or was not saved, unless it sets the rate. If it
was refused, it leaves them as they are. -/
structure Edited (o : Opened σ) (c : Call) : Prop where
  ok : ∀ r, (o.call c).1 = .ok (.rule r) → c.Edits r o.store.rules (o.call c).2.store.rules
  notSaved : ∀ e, (o.call c).1 = .error (.notSaved e) →
    (∃ raw, c = .rate raw) ∨ ∃ r, c.Edits r o.store.rules (o.call c).2.store.rules
  refused : ∀ e, (o.call c).1 = .error e → e.isRefusal = true →
    (o.call c).2.store.rules = o.store.rules
  rate : ∀ raw, c = .rate raw → (o.call c).2.store.rules = o.store.rules
  deleted : ∀ id, c = .delete id → (o.call c).2.store.rule? id = none

/-- Calls edit the rules of a store where ids differ. -/
theorem Keyed.edited {o : Opened σ} (h : o.Keyed) (c : Call) : o.Edited c := by
  have answer := o.call_fst c
  obtain ⟨m, after⟩ := o.call_snd c
  cases hp : c.plan o.store o.ids with
  | refuse e =>
    have refusal := Call.isRefusal_of_plan hp
    have same : (o.call c).2.store.rules = o.store.rules := by rw [after, hp]; rfl
    simp only [hp, Plan.reply, reduceCtorEq, exists_false, false_and, or_false] at answer
    refine ⟨by simp [answer], fun e' failed => ?_, fun _ _ _ => same, fun _ _ => same, ?_⟩
    · rw [answer] at failed
      cases failed
      cases refusal
    · rintro id rfl
      rcases Call.find_spec o.store id fun i r => .rules r (o.store.rules.eraseIdx i) o.ids with
        ⟨none, -⟩ | ⟨i, r, -, -, found⟩
      · simpa [Store.rule?, same] using none
      · cases found.symm.trans hp
  | rules r rules ids =>
    have edits := (Call.edits_of_plan h.named h.distinct h.fresh_rules hp).1
    have list : (o.call c).2.store.rules = rules := by rw [after, hp]; rfl
    simp only [hp, Plan.reply] at answer
    rw [← list] at edits
    refine ⟨fun r' ok => ?_, fun e' _ => .inr ⟨r, edits⟩, fun e' failed refusal => ?_, ?_, ?_⟩
    · rcases answer with answer | ⟨-, e, answer⟩ <;> rw [answer] at ok <;> cases ok
      exact edits
    · rcases answer with answer | ⟨-, e, answer⟩ <;> rw [answer] at failed <;> cases failed
      cases refusal
    · rintro raw rfl
      exact edits.elim
    · rintro id rfl
      obtain ⟨-, -, removed⟩ := edits
      simp [Store.rule?, removed]
  | rate value =>
    obtain ⟨raw, rfl, -⟩ := Call.plan_rate hp
    have same : (o.call (.rate raw)).2.store.rules = o.store.rules := by rw [after, hp]; rfl
    simp only [hp, Plan.reply] at answer
    refine ⟨fun r ok => ?_, fun _ _ => .inl ⟨raw, rfl⟩, fun _ _ _ => same, fun _ _ => same, ?_⟩
    · rcases answer with answer | ⟨-, e, answer⟩ <;> rw [answer] at ok <;> cases ok
    · intro id other
      cases other

end Keyed

/-! ## Saving -/

section Guarded

variable {σ : Type} [Medium σ] {kept : Json → Prop} {o : Opened (Guarded σ)}

/-- Saving the rules replaces what is stored of them or leaves it; saving anything else leaves
it. -/
theorem save_listed (hm : Medium.Faithful σ kept) (o : Opened (Guarded σ)) {key : String} {v : Json}
    (hv : key = Store.rulesKey → kept v) :
    ∃ m, (o.save key v).2 = { o with medium := m } ∧
      (listed { o with medium := m } = o.listed ∨
        key = Store.rulesKey ∧ listed { o with medium := m } = v) := by
  rcases o.save_cases key v with ⟨m, written, saved⟩ | ⟨e, -, saved⟩
  · refine ⟨m, by rw [saved], ?_⟩
    unfold Link.write at written
    cases hf : o.store.links.config.fault with
    | none =>
      simp only [hf] at written
      obtain ⟨read, frame⟩ := Guarded.read_of_write hm written
      by_cases own : key = Store.rulesKey
      · subst own
        exact .inr ⟨rfl, by simp only [listed, readOrNull, Link.read, hf, read (hv rfl)]⟩
      · have place : (⟨o.store.links.config.area, Store.rulesKey⟩ : Place) ≠
            ⟨o.store.links.config.area, key⟩ := fun e => own (congrArg Place.key e).symm
        exact .inl (by simp only [listed, readOrNull, Link.read, hf, frame _ place])
    | some f =>
      -- With a fault, a write that succeeds has no effect.
      simp only [hf] at written
      split at written <;> cases written
      exact .inl rfl
  · exact ⟨o.medium, by rw [saved], .inl rfl⟩

/-- Saving rules with different ids keeps the ids to come new. -/
theorem Keyed.persistRules (hm : Medium.Faithful σ kept) (hk : ∀ rs, kept (Rule.encodeList rs))
    (h : o.Keyed) : o.persistRules.2.Keyed := by
  obtain ⟨m, saved, same | ⟨-, read⟩⟩ := save_listed hm o fun _ => hk o.store.rules
  · rw [Opened.persistRules, saved]
    exact ⟨h.named, h.distinct, same ▸ h.stored, same ▸ h.fresh⟩
  · rw [Opened.persistRules, saved]
    have stored := Rule.storedIds_encodeList h.named
    rw [← read] at stored
    exact ⟨h.named, h.distinct, stored ▸ h.distinct, h.fresh_rules.mono (by simp [stored])⟩

/-- Saving something else than the rules concerns no id. -/
theorem Keyed.save_other (hm : Medium.Faithful σ kept) (h : o.Keyed) {key : String}
    (other : key ≠ Store.rulesKey) (v : Json) : (o.save key v).2.Keyed := by
  obtain ⟨m, saved, same | ⟨own, -⟩⟩ := save_listed hm o (v := v) fun own => absurd own other
  · rw [saved]
    exact ⟨h.named, h.distinct, same ▸ h.stored, same ▸ h.fresh⟩
  · exact absurd own other

/-! ## Operations -/

/-- An edit keeps ids different and the ids to come new. -/
theorem Keyed.edit (h : o.Keyed) {c : Call} {r : Rule} {rules : List Rule} {ids : Supply}
    (edits : c.Edits r o.store.rules rules)
    (supply : ids = o.ids ∧ r.id ∈ Rule.ids o.store.rules ∨
      ids = o.ids.take.2 ∧ r.id = o.ids.take.1) : ({ o with ids }.withRules rules).Keyed := by
  have fresh : ids.Fresh (r.id :: (Rule.ids o.store.rules ++ Rule.storedIds o.listed)) := by
    rcases supply with ⟨rfl, old⟩ | ⟨rfl, new⟩
    · exact h.fresh.mono (by grind)
    · exact new ▸ h.fresh.take
  have own : r.id ≠ "" := by
    rcases supply with ⟨-, old⟩ | ⟨-, new⟩
    · obtain ⟨q, member, same⟩ := Rule.mem_ids.1 old
      exact same ▸ h.named q member
    · exact new ▸ h.fresh.take_ne_empty
  have named : ∀ id ∈ Rule.ids o.store.rules, id ≠ "" := by simpa [Rule.ids] using h.named
  have old : ∀ id ∈ Rule.ids rules, id = r.id ∨ id ∈ Rule.ids o.store.rules := by
    rcases edits.ids with kept | ⟨-, added⟩
    · exact fun id hid => .inr (kept.subset hid)
    · simp [added, or_comm]
  refine ⟨fun q hq => ?_, ?_, h.stored, fresh.mono fun id hid => ?_⟩
  · rcases old q.id (Rule.mem_ids.2 ⟨q, hq, rfl⟩) with same | before
    · exact same ▸ own
    · exact named q.id before
  · rcases edits.ids with kept | ⟨new, added⟩
    · exact h.distinct.sublist kept
    · have distinct : (Rule.ids rules).Nodup := by
        rw [added]
        exact List.nodup_append_comm.2 (List.nodup_cons.2 ⟨by simpa using new, h.distinct⟩)
      exact distinct
  · rcases List.mem_append.1 hid with rule | stored
    · have := old id rule
      grind
    · exact List.mem_cons_of_mem _ (List.mem_append_right _ stored)

theorem Keyed.call (hm : Medium.Faithful σ kept) (hk : ∀ rs, kept (Rule.encodeList rs))
    (h : o.Keyed) (c : Call) : (o.call c).2.Keyed := by
  rw [call_eq]
  cases hp : c.plan o.store o.ids with
  | refuse e => exact h
  | rules r rules ids =>
    obtain ⟨edits, supply⟩ := Call.edits_of_plan h.named h.distinct h.fresh_rules hp
    have planned : Keyed ({ o with ids }.withRules rules) := h.edit edits supply
    exact planned.persistRules hm hk
  | rate value =>
    have planned : Keyed (o.withSettings ⟨value⟩) := ⟨h.named, h.distinct, h.stored, h.fresh⟩
    exact planned.save_other hm (by decide) _

theorem Keyed.loadRules (hm : Medium.Faithful σ kept) (hk : ∀ rs, kept (Rule.encodeList rs))
    (h : o.Keyed) : o.loadRules.Keyed := by
  obtain ⟨fresh, distinct, named⟩ := Rule.keyed_listOfStored
    (h.fresh.mono fun _ => List.mem_append_right _) h.stored
  have keyed : o.loaded.Keyed :=
    ⟨fun r hr => named _ (Rule.mem_ids.2 ⟨r, hr, rfl⟩), distinct, h.stored, fresh⟩
  rw [loadRules_eq]
  split
  · exact keyed.persistRules hm hk
  · exact keyed

theorem Keyed.act (hm : Medium.Faithful σ kept) (hk : ∀ rs, kept (Rule.encodeList rs))
    (h : o.Keyed) (a : Act) : (o.act a).Keyed := by
  cases a with
  | call c => exact h.call hm hk c
  | loadRules => exact h.loadRules hm hk
  | load τ => cases τ <;> exact ⟨h.named, h.distinct, h.stored, h.fresh⟩
  | persistRules => exact h.persistRules hm hk
  | persistSettings => exact h.save_other hm (by decide) _

/-! ## Runs -/

/-- What may happen to a store that is alone with its storage: an operation, whose write fails if
there is a reason for it, or a change that is announced. -/
inductive Event where
  | act (refusal : Option StorageError) (a : Act)
  | handle (c : Change)

/-- The same store, at a storage whose writes fail for a reason or do not fail. -/
def guarded (o : Opened (Guarded σ)) (refusal : Option StorageError) : Opened (Guarded σ) :=
  { o with medium := { o.medium with refusal } }

def step (o : Opened (Guarded σ)) : Event → Opened (Guarded σ)
  | .act refusal a => (o.guarded refusal).act a
  | .handle c => { o with store := (o.store.handle c).2 }

/-- The store after some events. -/
def after (o : Opened (Guarded σ)) (es : List Event) : Opened (Guarded σ) := es.foldl step o

theorem Keyed.guarded (h : o.Keyed) (refusal : Option StorageError) : (o.guarded refusal).Keyed :=
  ⟨h.named, h.distinct, h.stored, h.fresh⟩

theorem Keyed.step (hm : Medium.Faithful σ kept) (hk : ∀ rs, kept (Rule.encodeList rs))
    (h : o.Keyed) (e : Event) : (o.step e).Keyed := by
  cases e with
  | act refusal a => exact (h.guarded refusal).act hm hk a
  | handle c =>
    have rules : (o.store.handle c).2.rules = o.store.rules := Store.handle_rules o.store c
    have listed : listed { o with store := (o.store.handle c).2 } = o.listed := by
      simp only [Opened.listed, Store.handle_links]
    refine ⟨?_, ?_, ?_, ?_⟩ <;> simp only [Opened.step, rules, listed]
    exacts [h.named, h.distinct, h.stored, h.fresh]

theorem Keyed.after (hm : Medium.Faithful σ kept) (hk : ∀ rs, kept (Rule.encodeList rs))
    (h : o.Keyed) (es : List Event) : (o.after es).Keyed := by
  induction es generalizing o with
  | nil => exact h
  | cons e es ih => exact ih (h.step hm hk e)

theorem keyed_openOn (hm : Medium.Faithful σ kept) (hk : ∀ rs, kept (Rule.encodeList rs))
    {links : Links} {m : Guarded σ} {ids : Supply}
    (distinct : (Rule.storedIds (readOrNull m links.config Store.rulesKey)).Nodup)
    (fresh : ids.Fresh (Rule.storedIds (readOrNull m links.config Store.rulesKey))) :
    (openOn links m ids).Keyed := by
  have start : Keyed ⟨.new links, m, ids⟩ := ⟨nofun, List.nodup_nil, distinct, fresh⟩
  have loaded := start.loadRules hm hk
  exact ⟨loaded.named, loaded.distinct, loaded.stored, loaded.fresh⟩

/-- At all times the rules of a store have different ids, and whatever comes of saving, every call
edits them as its answer tells. -/
theorem edited_after (hm : Medium.Faithful σ kept) (hk : ∀ rs, kept (Rule.encodeList rs))
    (links : Links) (m : Guarded σ) {ids : Supply}
    (distinct : (Rule.storedIds (readOrNull m links.config Store.rulesKey)).Nodup)
    (fresh : ids.Fresh (Rule.storedIds (readOrNull m links.config Store.rulesKey)))
    (es : List Event) :
    let o := (openOn links m ids).after es
    (∀ r ∈ o.store.rules, r.id ≠ "") ∧ (Rule.ids o.store.rules).Nodup ∧
      ∀ refusal c, Edited (o.guarded refusal) c := by
  intro o
  have keyed : o.Keyed := (keyed_openOn hm hk distinct fresh).after hm hk es
  exact ⟨keyed.named, keyed.distinct, fun refusal c => (keyed.guarded refusal).edited c⟩

/-- One of three stored rules lacks an id, and the store is opened while nothing can be written.
Then a rule is added, one is removed without being saved, and the rules are loaded again. -/
theorem edited_after_reload :
    let links := Links.working true
    let ids : Supply := ⟨fun n => String.ofList (List.replicate (n + 2) 'z'), 0⟩
    let stored : Json := .array [.object [("id", .number (.natural 1))],
      .object [("id", .string "a")], .object []]
    let memory : Memory := ⟨[(⟨.sync, Store.rulesKey⟩, stored)], .empty⟩
    let database := Database.empty.upsert ("sync", Store.rulesKey) (.text stored.print)
    let session : Session := ⟨database, ⟨[], 0, 0, .empty⟩⟩
    let es : List Event := [.act none (.call (.add "a.b" "http://c.d/")),
      .act (some .quotaExceeded) (.call (.delete "a")), .act none .loadRules]
    let o := (openOn links ⟨memory, some .quotaExceeded⟩ ids).after es
    let o' := (openOn links ⟨session, some .quotaExceeded⟩ ids).after es
    ((Rule.ids o.store.rules).Nodup ∧ Edited (o.guarded none) (.delete "1")) ∧
      (Rule.ids o'.store.rules).Nodup ∧ Edited (o'.guarded none) (.delete "1") := by
  intro links ids stored memory database session es
  have brought : Rule.storedIds stored = ["1", "a"] := by decide +kernel
  have length (n : Nat) : (ids.id n).length = n + 2 := by simp [ids]
  have fresh : ids.Fresh ["1", "a"] := by
    refine ⟨fun n _ e => ?_, fun i j _ _ e => ?_, fun n _ hid => ?_⟩
    · have := length n
      simp [e] at this
    · have := length i
      rw [e, length] at this
      omega
    · have short : ∀ id ∈ ["1", "a"], id.length = 1 := by decide
      have := short _ hid
      rw [length] at this
      omega
  have read : readOrNull (⟨memory, some .quotaExceeded⟩ : Guarded Memory) links.config
      Store.rulesKey = stored := by decide +kernel
  have read' : readOrNull (⟨session, some .quotaExceeded⟩ : Guarded Session) links.config
      Store.rulesKey = stored := by decide +kernel
  rw [← brought] at fresh
  have distinct : (Rule.storedIds stored).Nodup := by
    rw [brought]
    decide
  have inMemory := edited_after Memory.faithful (fun _ => trivial) links
    ⟨memory, some .quotaExceeded⟩ (read ▸ distinct) (read ▸ fresh) es
  have inDatabase := edited_after Session.faithful Rule.read?_print_encodeList links
    ⟨session, some .quotaExceeded⟩ (read' ▸ distinct) (read' ▸ fresh) es
  exact ⟨⟨inMemory.2.1, inMemory.2.2 none _⟩, inDatabase.2.1, inDatabase.2.2 none _⟩

end Guarded

end Opened

end Reroute
