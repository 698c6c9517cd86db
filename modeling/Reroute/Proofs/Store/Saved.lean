import Reroute.Proofs.Storage.Shared
import Reroute.Proofs.Store.RuleList

/-!
# What operations make of stored rules

An operation of a store saves the rules that the store lists after it, as a whole and under the
name of the store, or it leaves all that is stored of rules.

## Main definitions

* `Call.edit` — what a call makes of a list of rules, saved or not.
* `Opened.listAfter` — what an operation makes of it.
* `Opened.Saved` — what an operation makes of the rules that are stored.

## Main results

* `Opened.openOn_saved`, `Opened.act_saved` — what opening and operations make of both.
-/

namespace Reroute

/-- A store that lists some rules. -/
def Store.listing (rs : List Rule) : Store := { new (.working true) with rules := rs }

/-- What a call makes of a list of rules, saved or not. It depends on no other part of a store. -/
def Call.edit (ids : Supply) (rs : List Rule) (c : Call) : List Rule :=
  ((c.plan (.listing rs) ids).applied (.listing rs)).rules

theorem Call.rules_applied (s : Store) (ids : Supply) (c : Call) :
    ((c.plan s ids).applied s).rules = c.edit ids s.rules := by
  have plan : c.plan (.listing s.rules) ids = c.plan s ids := Call.plan_congr rfl ids c
  unfold Call.edit
  rw [plan]
  cases c.plan s ids <;> rfl

/-! ## Stored rules and their authors -/

namespace Signed

variable {σ : Type} [Medium σ]

/-- The rules of all areas are stored as they were, by the same authors. -/
def Kept (g g' : Signed σ) : Prop :=
  ∀ area, g'.author ⟨area, Store.rulesKey⟩ = g.author ⟨area, Store.rulesKey⟩ ∧
    Medium.read g' ⟨area, Store.rulesKey⟩ = Medium.read g ⟨area, Store.rulesKey⟩

/-- Rules were written in one area, and those of the others are as they were. -/
structure Wrote (g g' : Signed σ) (area : Area) (rules : List Rule) : Prop where
  author : g'.author ⟨area, Store.rulesKey⟩ = some g.hand
  read : Medium.read g' ⟨area, Store.rulesKey⟩ = .ok (some (Rule.encodeList rules))
  elsewhere : ∀ other, other ≠ area →
    g'.author ⟨other, Store.rulesKey⟩ = g.author ⟨other, Store.rulesKey⟩ ∧
      Medium.read g' ⟨other, Store.rulesKey⟩ = Medium.read g ⟨other, Store.rulesKey⟩

theorem Kept.refl (g : Signed σ) : Kept g g := fun _ => ⟨rfl, rfl⟩

end Signed

namespace Opened

variable {σ : Type} [Medium σ] {kept : Json → Prop} {o : Opened (Signed σ)}

/-- The rules that a store would load. -/
def loadable {σ : Type} [Medium σ] (o : Opened σ) : List Rule :=
  (Rule.listOfStored o.listed o.ids).1

/-- The rules of a store after an operation. -/
def listAfter {σ : Type} [Medium σ] (o : Opened σ) : Act → List Rule
  | .call c => c.edit o.ids o.store.rules
  | .loadRules => o.loadable
  | _ => o.store.rules

/-- The rules that are listed now were saved, or all that is stored of rules is as it was. Then the
list is as it was if that is stored. -/
def Saved (o o' : Opened (Signed σ)) : Prop :=
  Signed.Wrote o.medium o'.medium o.store.links.config.area o'.store.rules ∨
    Signed.Kept o.medium o'.medium ∧
      (o.listed = Rule.encodeList o.store.rules → o'.store.rules = o.store.rules)

/-- Stored rules keep their author or get the store that operates. -/
theorem Saved.author {o' : Opened (Signed σ)} (h : Saved o o') (area : Area) :
    o'.medium.author ⟨area, Store.rulesKey⟩ = o.medium.author ⟨area, Store.rulesKey⟩ ∨
      o'.medium.author ⟨area, Store.rulesKey⟩ = some o.medium.hand := by
  rcases h with wrote | ⟨kept, -⟩
  · by_cases here : area = o.store.links.config.area
    · exact .inr (here ▸ wrote.author)
    · exact .inl (wrote.elsewhere area here).1
  · exact .inl (kept area).1

/-- Saving signs one value. -/
theorem save_signed (hm : Medium.Faithful σ kept) (sound : o.store.links.config.fault = none)
    (key : String) (v : Json) :
    ∃ m, o.save key v = (.ok (), { o with medium := m }) ∧
      Medium.write o.medium ⟨o.store.links.config.area, key⟩ v = .ok m ∧
      m.author = Function.update o.medium.author ⟨o.store.links.config.area, key⟩
        (some o.medium.hand) := by
  obtain ⟨m, written⟩ := (Signed.faithful hm).write_ok o.medium
    ⟨o.store.links.config.area, key⟩ v
  refine ⟨m, ?_, written, ?_⟩
  · simp only [save, Link.write, sound, written]
  · obtain ⟨m', -, rfl⟩ := Signed.write_eq_ok.1 written
    rfl

theorem persistRules_saved (hm : Medium.Faithful σ kept) (hk : ∀ rs, kept (Rule.encodeList rs))
    (sound : o.store.links.config.fault = none) :
    ∃ m, o.persistRules = (.ok (), { o with medium := m }) ∧
      Signed.Wrote o.medium m o.store.links.config.area o.store.rules := by
  obtain ⟨m, saved, written, author⟩ := save_signed hm sound Store.rulesKey
    (Rule.encodeList o.store.rules)
  refine ⟨m, saved, ?_, (Signed.faithful hm).read_written written (hk _), fun other differ => ?_⟩
  · rw [author, Function.update_self]
  · have place : (⟨other, Store.rulesKey⟩ : Place) ≠
        ⟨o.store.links.config.area, Store.rulesKey⟩ := by simpa using differ
    rw [author, Function.update_of_ne place]
    exact ⟨rfl, (Signed.faithful hm).read_other written place⟩

/-- Saving something else than the rules leaves them stored as they are. -/
theorem save_kept (hm : Medium.Faithful σ kept) (sound : o.store.links.config.fault = none)
    {key : String} (other : key ≠ Store.rulesKey) (v : Json) :
    ∃ m, o.save key v = (.ok (), { o with medium := m }) ∧ Signed.Kept o.medium m := by
  obtain ⟨m, saved, written, author⟩ := save_signed hm sound key v
  refine ⟨m, saved, fun area => ?_⟩
  have place : (⟨area, Store.rulesKey⟩ : Place) ≠ ⟨o.store.links.config.area, key⟩ :=
    fun same => other (congrArg Place.key same).symm
  rw [author, Function.update_of_ne place]
  exact ⟨rfl, (Signed.faithful hm).read_other written place⟩

/-- Rules are loaded, and they are saved if some were given ids. -/
theorem loadRules_saved (hm : Medium.Faithful σ kept) (hk : ∀ rs, kept (Rule.encodeList rs))
    (sound : o.store.links.config.fault = none) :
    o.loadRules.store.links = o.store.links ∧ o.loadRules.store.rules = o.loadable ∧
      Saved o o.loadRules := by
  cases complete : Rule.needsIds o.listed with
  | true =>
    obtain ⟨m, saved, wrote⟩ := persistRules_saved hm hk
      (o := ⟨{ o.store with rules := o.loadable }, o.medium, (Rule.listOfStored o.listed o.ids).2⟩)
      sound
    have loaded : o.loadRules = ⟨{ o.store with rules := o.loadable }, m,
        (Rule.listOfStored o.listed o.ids).2⟩ := by
      refine Eq.trans ?_ (congrArg Prod.snd saved)
      exact if_pos complete
    rw [loaded]
    exact ⟨rfl, rfl, .inl wrote⟩
  | false =>
    have loaded : o.loadRules = ⟨{ o.store with rules := o.loadable }, o.medium,
        (Rule.listOfStored o.listed o.ids).2⟩ := if_neg (ne_true_of_eq_false complete)
    rw [loaded]
    refine ⟨rfl, rfl, .inr ⟨.refl _, fun stored => ?_⟩⟩
    rw [stored] at complete
    have read := Rule.listOfStored_encodeList_of_needsIds complete o.ids
    simp only [loadable, stored, read]

/-- A store that was opened lists the rules that were stored. Opening may have saved them. -/
theorem openOn_saved (hm : Medium.Faithful σ kept) (hk : ∀ rs, kept (Rule.encodeList rs))
    {links : Links} (sound : links.config.fault = none) (g : Signed σ) (ids : Supply) :
    let o : Opened (Signed σ) := ⟨.new links, g, ids⟩
    (openOn links g ids).store.links = links ∧ (openOn links g ids).store.rules = o.loadable ∧
      Saved o (openOn links g ids) :=
  loadRules_saved hm hk (o := ⟨.new links, g, ids⟩) sound

/-- What an operation makes of the rules that are listed and stored. -/
theorem act_saved (hm : Medium.Faithful σ kept) (hk : ∀ rs, kept (Rule.encodeList rs))
    (sound : o.store.links.config.fault = none) (a : Act) :
    (o.act a).store.links = o.store.links ∧ (o.act a).store.rules = o.listAfter a ∧
      Saved o (o.act a) := by
  cases a with
  | call c =>
    have made : o.act (.call c) = (o.carryOut (c.plan o.store o.ids)).2 :=
      congrArg Prod.snd (o.call_eq c)
    have list := Call.rules_applied o.store o.ids c
    simp only [listAfter, made, ← list]
    cases hp : c.plan o.store o.ids with
    | refuse e => exact ⟨rfl, rfl, .inr ⟨.refl _, fun _ => rfl⟩⟩
    | rules r rules ids =>
      obtain ⟨m, saved, wrote⟩ := persistRules_saved hm hk (o := { o with ids }.withRules rules)
        sound
      simp only [carryOut, answer, saved]
      exact ⟨rfl, rfl, .inl wrote⟩
    | rate value =>
      obtain ⟨m, saved, same⟩ := save_kept hm (o := o.withSettings ⟨value⟩) sound
        (by decide : Store.settingsKey ≠ Store.rulesKey) (Settings.encode ⟨value⟩)
      have persisted : (o.withSettings ⟨value⟩).persistSettings = _ := saved
      simp only [carryOut, answer, persisted]
      exact ⟨rfl, rfl, .inr ⟨same, fun _ => rfl⟩⟩
  | loadRules => exact loadRules_saved hm hk sound
  | load τ => cases τ <;> exact ⟨rfl, rfl, .inr ⟨.refl _, fun _ => rfl⟩⟩
  | persistRules =>
    obtain ⟨m, saved, wrote⟩ := persistRules_saved hm hk sound
    have after : o.act .persistRules = { o with medium := m } := congrArg Prod.snd saved
    rw [after]
    exact ⟨rfl, rfl, .inl wrote⟩
  | persistSettings =>
    obtain ⟨m, saved, same⟩ := save_kept hm sound
      (by decide : Store.settingsKey ≠ Store.rulesKey) o.store.settings.encode
    have after : o.act .persistSettings = { o with medium := m } := congrArg Prod.snd saved
    rw [after]
    exact ⟨rfl, rfl, .inr ⟨same, fun _ => rfl⟩⟩

end Opened

end Reroute
