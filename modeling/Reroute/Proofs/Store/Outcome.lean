import Mathlib.Control.Monad.Basic
import Reroute.Proofs.Storage.Faithful
import Reroute.Proofs.Store.Calls

/-!
# What the answer of a call tells

A call that is refused has changed nothing. Every other call has changed the store and then written
one entry, the rules or the settings as they are now. If that write failed, it is all that is
missing.

## Main definitions

* `Call.key`, `Call.value` — the entry that a call writes, `Call.target?` — the id that it names.
* `Plan.applied` — the store as it is planned.
* `Opened.Alike` — equal copies and the same ids to come, at whatever storage.
* `Opened.Truthful` — the answer of a call tells what the call did.

## Main results

* `Opened.call_cases` — what a call can do.
* `Opened.call_of_alike` — the storage decides only whether a call is saved.
* `Opened.answer_of_call` — every answer tells what the call did.
-/

namespace Reroute

/-- The operation was refused, rather than carried out and not saved. -/
def Store.Error.isRefusal : Store.Error → Bool
  | .notSaved _ => false
  | _ => true

namespace Call

/-- The key that a call writes. -/
def key : Call → String
  | .rate _ => Store.settingsKey
  | _ => Store.rulesKey

/-- The value that a call writes from a store. -/
def value (s : Store) : Call → Json
  | .rate _ => s.settings.encode
  | _ => Rule.encodeList s.rules

/-- The place that a call writes. -/
def place (links : Links) (c : Call) : Place := ⟨links.config.area, c.key⟩

/-- The id that a call names. -/
def target? : Call → Option String
  | .update id _ | .enable id _ | .delete id => some id
  | _ => none

end Call

namespace Plan

/-- The store as it is planned. -/
def applied (s : Store) : Plan → Store
  | .refuse _ => s
  | .rules _ list _ => { s with rules := list }
  | .rate value => { s with settings := ⟨value⟩ }

/-- The ids that are left. -/
def supply (ids : Supply) : Plan → Supply
  | .rules _ _ ids => ids
  | _ => ids

/-- The answer if nothing fails. -/
def reply : Plan → Except Store.Error Reply
  | .refuse e => .error e
  | .rules r _ _ => .ok (.rule r)
  | .rate value => .ok (.rate value)

end Plan

namespace Call

/-! ## Plans -/

/-- What a call comes to depends on the rules alone. -/
theorem plan_congr {s s' : Store} (h : s'.rules = s.rules) (ids : Supply) (c : Call) :
    c.plan s' ids = c.plan s ids := by
  have find (id : String) (k : Nat → Rule → Plan) : find s' id k = find s id k := by
    simp only [Call.find, Store.position?, Store.rule?, h]
  cases c <;> simp only [plan, find, h]

theorem accept_ne_notFound (d : Rule.Draft) (ids : Supply) (k : Rule → List Rule) (id : String) :
    accept d ids k ≠ .refuse (.ruleNotFound id) := by
  unfold accept
  split <;> simp

/-- Exactly the calls that name an id which no rule has do not find their rule. -/
theorem plan_notFound_iff {c : Call} {id : String} (h : c.target? = some id) (s : Store)
    (ids : Supply) (i : String) :
    c.plan s ids = .refuse (.ruleNotFound i) ↔ i = id ∧ ∀ r ∈ s.rules, r.id ≠ id := by
  have looked (k : Nat → Rule → Plan) (hk : ∀ n r, k n r ≠ .refuse (.ruleNotFound i)) :
      find s id k = .refuse (.ruleNotFound i) ↔ i = id ∧ ∀ r ∈ s.rules, r.id ≠ id := by
    rcases find_spec s id k with ⟨none, hf⟩ | ⟨n, r, entry, found, hf⟩
    · rw [hf]
      exact ⟨fun e => by cases e; exact ⟨rfl, none⟩, fun ⟨same, _⟩ => by rw [same]⟩
    · have member : r ∈ s.rules := List.mem_of_getElem? entry
      rw [hf]
      exact ⟨fun e => absurd e (hk n r), fun e => absurd found (e.2 r member)⟩
  cases c with
  | add source target => cases h
  | update id' edit =>
    obtain rfl : id' = id := Option.some.inj h
    exact looked _ fun n r => accept_ne_notFound _ _ _ _
  | enable id' enabled =>
    obtain rfl : id' = id := Option.some.inj h
    exact looked _ fun n r => nofun
  | delete id' =>
    obtain rfl : id' = id := Option.some.inj h
    exact looked _ fun n r => nofun
  | rate raw => cases h

/-- No call is refused for a failure of saving. -/
theorem isRefusal_of_plan {s : Store} {ids : Supply} {c : Call} {e : Store.Error}
    (h : c.plan s ids = .refuse e) : e.isRefusal = true := by
  have accepted (d : Rule.Draft) (k : Rule → List Rule) (h : accept d ids k = .refuse e) :
      e.isRefusal = true := by
    unfold accept at h
    split at h <;> cases h
    rfl
  have looked (id : String) (k : Nat → Rule → Plan)
      (hk : ∀ n r, k n r = .refuse e → e.isRefusal = true) (h : find s id k = .refuse e) :
      e.isRefusal = true := by
    rcases find_spec s id k with ⟨-, hf⟩ | ⟨n, r, -, -, hf⟩
    · rw [hf] at h
      cases h
      rfl
    · exact hk n r (hf.symm.trans h)
  cases c with
  | add source target => exact accepted _ _ h
  | update id edit => exact looked id _ (fun n r => accepted _ _) h
  | enable id enabled =>
    refine looked id _ (fun n r found => ?_) h
    cases found
  | delete id =>
    refine looked id _ (fun n r found => ?_) h
    cases found
  | rate raw =>
    simp only [plan] at h
    split at h <;> cases h
    rfl

/-- Rules that come to be saved are written under their key. -/
theorem key_of_plan_rules {s : Store} {ids ids' : Supply} {c : Call} {r : Rule}
    {rules : List Rule} (h : c.plan s ids = .rules r rules ids') :
    c.key = Store.rulesKey ∧ ∀ t, c.value t = Rule.encodeList t.rules := by
  cases c with
  | rate raw =>
    simp only [plan] at h
    split at h <;> cases h
  | _ => exact ⟨rfl, fun _ => rfl⟩

end Call

namespace Opened

variable {σ : Type} [Medium σ]

/-! ## What a call does -/

/-- Saving writes one entry of the configuration area, or changes nothing. -/
theorem save_cases (o : Opened σ) (key : String) (v : Json) :
    (∃ m, o.store.links.config.write o.medium key v = .ok m ∧
      o.save key v = (.ok (), { o with medium := m })) ∨
    ∃ e, o.store.links.config.write o.medium key v = .error e ∧
      o.save key v = (.error (.notSaved e), o) := by
  unfold save
  split
  · rename_i m hm
    exact .inl ⟨m, hm, rfl⟩
  · rename_i e he
    exact .inr ⟨e, he, rfl⟩

/-- A call is refused and changes nothing, or it changes the store as planned. Then it is saved with
a write of its entry, or the write fails and changes nothing. -/
theorem call_cases (o : Opened σ) (c : Call) :
    (∃ e, c.plan o.store o.ids = .refuse e ∧ o.call c = (.error e, o)) ∨
    ∃ a, (c.plan o.store o.ids).reply = .ok a ∧
      let s := (c.plan o.store o.ids).applied o.store
      let ids := (c.plan o.store o.ids).supply o.ids
      (∃ m, o.store.links.config.write o.medium c.key (c.value s) = .ok m ∧
        o.call c = (.ok a, ⟨s, m, ids⟩)) ∨
      ∃ e, o.store.links.config.write o.medium c.key (c.value s) = .error e ∧
        o.call c = (.error (.notSaved e), ⟨s, o.medium, ids⟩) := by
  rw [call_eq]
  cases hp : c.plan o.store o.ids with
  | refuse e => exact .inl ⟨e, rfl, rfl⟩
  | rules r rules ids =>
    obtain ⟨key, value⟩ := Call.key_of_plan_rules hp
    refine .inr ⟨.rule r, rfl, ?_⟩
    intro s ids'
    rw [key, value]
    rcases save_cases ({ o with ids }.withRules rules) Store.rulesKey (Rule.encodeList rules) with
      ⟨m, hw, hs⟩ | ⟨e, hw, hs⟩
    · exact .inl ⟨m, hw, congrArg (answer (.rule r)) hs⟩
    · exact .inr ⟨e, hw, congrArg (answer (.rule r)) hs⟩
  | rate value =>
    obtain ⟨raw, rfl, -⟩ := Call.plan_rate hp
    refine .inr ⟨.rate value, rfl, ?_⟩
    rcases save_cases (o.withSettings ⟨value⟩) Store.settingsKey (Settings.encode ⟨value⟩) with
      ⟨m, hw, hs⟩ | ⟨e, hw, hs⟩
    · exact .inl ⟨m, hw, congrArg (answer (.rate value)) hs⟩
    · exact .inr ⟨e, hw, congrArg (answer (.rate value)) hs⟩

/-- A call leaves the store as planned, whatever comes of saving it. -/
theorem call_snd (o : Opened σ) (c : Call) :
    ∃ m, (o.call c).2 =
      ⟨(c.plan o.store o.ids).applied o.store, m, (c.plan o.store o.ids).supply o.ids⟩ := by
  rcases o.call_cases c with ⟨e, refused, called⟩ | ⟨a, -, ⟨m, -, called⟩ | ⟨e, -, called⟩⟩
  · rw [called, refused]
    exact ⟨o.medium, rfl⟩
  · exact ⟨m, congrArg Prod.snd called⟩
  · exact ⟨o.medium, congrArg Prod.snd called⟩

/-- The answer is the planned one, unless the change was not saved. -/
theorem call_fst (o : Opened σ) (c : Call) :
    (o.call c).1 = (c.plan o.store o.ids).reply ∨
      (∃ a, (c.plan o.store o.ids).reply = .ok a) ∧ ∃ e, (o.call c).1 = .error (.notSaved e) := by
  rcases o.call_cases c with ⟨e, refused, called⟩ | ⟨a, replied, ⟨m, -, called⟩ | ⟨e, -, called⟩⟩
  · rw [called, refused]
    exact .inl rfl
  · rw [called, replied]
    exact .inl rfl
  · rw [called]
    exact .inr ⟨⟨a, replied⟩, e, rfl⟩

/-! ## Calls at different storages -/

/-- Equal copies and the same ids to come; links and storages may differ. -/
structure Alike {σ τ : Type} (o : Opened σ) (o' : Opened τ) : Prop where
  rules : o'.store.rules = o.store.rules
  metrics : o'.store.metrics = o.store.metrics
  settings : o'.store.settings = o.store.settings
  ids : o'.ids = o.ids

/-- The configuration area accepts every write. -/
def Accepts (o : Opened σ) : Prop :=
  ∀ key v, ∃ m, o.store.links.config.write o.medium key v = .ok m

/-- The storage decides only whether a call that is not refused is saved. -/
theorem call_of_alike {τ : Type} [Medium τ] {o : Opened σ} {o' : Opened τ} (h : Alike o o')
    (c : Call) :
    Alike (o.call c).2 (o'.call c).2 ∧
      (o'.Accepts → (o'.call c).1 = (c.plan o.store o.ids).reply) := by
  have plan : c.plan o'.store o'.ids = c.plan o.store o.ids := by
    rw [h.ids, Call.plan_congr h.rules]
  obtain ⟨p, hp⟩ : ∃ p, c.plan o.store o.ids = p := ⟨_, rfl⟩
  have applied (m : σ) (m' : τ) : Alike (⟨p.applied o.store, m, p.supply o.ids⟩ : Opened σ)
      ⟨p.applied o'.store, m', p.supply o'.ids⟩ := by
    rw [h.ids]
    cases p with
    | refuse e => exact ⟨h.rules, h.metrics, h.settings, rfl⟩
    | rules r rules ids => exact ⟨rfl, h.metrics, h.settings, rfl⟩
    | rate value => exact ⟨h.rules, h.metrics, rfl, rfl⟩
  obtain ⟨m, store⟩ := o.call_snd c
  obtain ⟨m', store'⟩ := o'.call_snd c
  rw [hp] at store
  rw [plan, hp] at store'
  rw [store, store']
  refine ⟨applied m m', fun accepts => ?_⟩
  rcases o'.call_cases c with ⟨e, refused, called⟩ | ⟨a, replied, ⟨m', -, called⟩ | ⟨e, failed, -⟩⟩
  · rw [called, ← plan, refused]
    rfl
  · rw [called, ← plan, replied]
  · obtain ⟨m', accepted⟩ := accepts c.key (c.value ((c.plan o'.store o'.ids).applied o'.store))
    rw [accepted] at failed
    cases failed

/-! ## Answers -/

/-- The answer of a call tells what the call did: nothing if it was refused, and all but the write
if it was not saved. -/
structure Truthful (o : Opened σ) (c : Call) : Prop where
  refused : ∀ e, (o.call c).1 = .error e → e.isRefusal = true → (o.call c).2 = o
  notSaved : ∀ e, (o.call c).1 = .error (.notSaved e) → (o.call c).2.medium = o.medium ∧
    ∀ (τ : Type) [Medium τ] (o' : Opened τ), Alike o o' →
      Alike (o.call c).2 (o'.call c).2 ∧ (o'.Accepts → ∃ a, (o'.call c).1 = .ok a)
  saved : ∀ a, (o.call c).1 = .ok a →
    o.store.links.config.write o.medium c.key (c.value (o.call c).2.store) =
      .ok (o.call c).2.medium
  notFound : ∀ id, c.target? = some id → ∀ i, (o.call c).1 = .error (.ruleNotFound i) ↔
    i = id ∧ ∀ r ∈ o.store.rules, r.id ≠ id

theorem truthful (o : Opened σ) (c : Call) : Truthful o c := by
  rcases o.call_cases c with ⟨e, refused, called⟩ | ⟨a, replied, saved⟩
  · have refusal := Call.isRefusal_of_plan refused
    refine ⟨fun _ _ _ => by rw [called], fun e' failed => ?_, fun a' ok => ?_,
      fun id named i => ?_⟩
    · rw [called] at failed
      cases failed
      cases refusal
    · rw [called] at ok
      cases ok
    · rw [called, ← Call.plan_notFound_iff named o.store o.ids i, refused]
      simp
  · have notFound : ∀ id, c.target? = some id →
        ∀ i, ¬(i = id ∧ ∀ r ∈ o.store.rules, r.id ≠ id) := by
      intro id named i none
      rw [(Call.plan_notFound_iff named o.store o.ids i).2 none] at replied
      cases replied
    rcases saved with ⟨m, written, called⟩ | ⟨e, -, called⟩
    · refine ⟨fun e failed => ?_, fun e failed => ?_, fun a' _ => ?_, fun id named i => ?_⟩
      · rw [called] at failed
        cases failed
      · rw [called] at failed
        cases failed
      · rw [called]
        exact written
      · rw [called]
        exact ⟨nofun, fun none => absurd none (notFound id named i)⟩
    · refine ⟨fun e' failed refusal => ?_, fun e' _ => ⟨by rw [called], ?_⟩, fun a' ok => ?_,
        fun id named i => ?_⟩
      · rw [called] at failed
        cases failed
        cases refusal
      · intro τ _ o' alike
        obtain ⟨same, answer⟩ := call_of_alike alike c
        exact ⟨same, fun accepts => ⟨a, (answer accepts).trans replied⟩⟩
      · rw [called] at ok
        cases ok
      · rw [called]
        exact ⟨nofun, fun none => absurd none (notFound id named i)⟩

/-- Every answer of a call tells what the call did, and a call that was saved has left the rules or
the settings of the store in the storage. -/
theorem answer_of_call (c : Call) :
    (∀ (σ : Type) [Medium σ] (o : Opened σ), Truthful o c) ∧
    (∀ (o : Opened Memory) (a : Reply), o.store.links.config.fault = none →
      (o.call c).1 = .ok a →
      (o.call c).2.medium.get (c.place o.store.links) = some (c.value (o.call c).2.store)) ∧
    ∀ (o : Opened Session) (a : Reply), o.store.links.config.fault = none →
      (o.call c).1 = .ok a →
      (o.call c).2.medium.database.rows.get? (Database.rowOf (c.place o.store.links)) =
        some (.text (c.value (o.call c).2.store).print) := by
  refine ⟨fun σ _ o => o.truthful c, fun o a sound ok => ?_, fun o a sound ok => ?_⟩
  · have written := (o.truthful c).saved a ok
    simp only [Link.write, sound] at written
    have medium : o.medium.set (c.place o.store.links) (c.value (o.call c).2.store) =
      (o.call c).2.medium := Except.ok.inj written
    rw [← medium, Memory.get_set, if_pos rfl]
  · have written := (o.truthful c).saved a ok
    simp only [Link.write, sound] at written
    have medium : o.medium.set (c.place o.store.links) (c.value (o.call c).2.store) =
      (o.call c).2.medium := Except.ok.inj written
    rw [← medium, Session.get?_set, if_pos rfl]

/-- A rate is saved in memory and in a database, and kept where the area cannot be written. -/
theorem answer_of_call_rate :
    let c := Call.rate "20"
    let o : Opened Memory := ⟨.new (.working true), .empty, .from 0⟩
    let s : Opened Session := ⟨.new (.working true), ⟨.empty, ⟨[], 0, 0, .empty⟩⟩, .from 0⟩
    let broken : Opened Memory := ⟨.new ⟨⟨.sync, some .readOnly⟩, .sound .device⟩, .empty, .from 0⟩
    (o.call c).2.medium.get ⟨.sync, Store.settingsKey⟩ = some (c.value (o.call c).2.store) ∧
      (s.call c).2.medium.database.rows.get? ("sync", Store.settingsKey) =
        some (.text (c.value (s.call c).2.store).print) ∧
      (broken.call c).2.medium = broken.medium ∧ Alike (broken.call c).2 (o.call c).2 := by
  intro c o s broken
  obtain ⟨truthful, memory, session⟩ := answer_of_call c
  have twenty : Rate.ofInput "20" = .ok (some (Double.ofNat 20)) := by decide +kernel
  have kept : (broken.call c).1 = .error (.notSaved .quotaExceeded) := by
    simp only [c, call, setRate, twenty]
    rfl
  obtain ⟨medium, alike⟩ := (truthful Memory broken).notSaved _ kept
  have saved : (o.call c).1 = .ok (.rate (some (Double.ofNat 20))) := by
    simp only [c, call, setRate, twenty]
    rfl
  have saved' : (s.call c).1 = .ok (.rate (some (Double.ofNat 20))) := by
    simp only [c, call, setRate, twenty]
    rfl
  exact ⟨memory o _ rfl saved, session s _ rfl saved', medium,
    (alike Memory o ⟨rfl, rfl, rfl, rfl⟩).1⟩

end Opened

end Reroute
