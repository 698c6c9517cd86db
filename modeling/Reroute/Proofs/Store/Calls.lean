import Reroute.Proofs.Rule.Validation
import Reroute.Store.Opened

/-!
# Calls of a store

The five operations that change a store are of one kind: from the store and the ids to come they
work out what is to be saved, and then save it. What they work out does not depend on the storage.

## Main definitions

* `Call`, `Opened.call` — the operations as data, and making one.
* `Call.plan` — what a call comes to, `Opened.carryOut` — saving it.

## Main results

* `Opened.call_eq` — a call carries out what it comes to.
* `Call.find_spec` — a rule that is looked up, and its place.
* `Call.plan_rules`, `Call.plan_rate` — where the ids and the rate to be saved come from.
-/

namespace Reroute

/-- A call of an operation that changes a store. -/
inductive Call where
  | add (source target : String)
  | update (id : String) (edit : Rule.Edit)
  | enable (id : String) (enabled : Bool)
  | delete (id : String)
  | rate (raw : String)
  deriving DecidableEq

/-- What a call that succeeded answers. -/
inductive Reply where
  | rule (r : Rule)
  | rate (rate : Option Double)
  deriving DecidableEq

/-- What a call comes to before anything is saved. -/
inductive Plan where
  | refuse (e : Store.Error)
  | rules (r : Rule) (rules : List Rule) (ids : Supply)
  | rate (rate : Option Double)

/-- The links of a store whose areas work, with the shared area or without it. -/
def Links.working (shared : Bool) : Links :=
  .resolve (if shared then some (.sound .sync) else none) (.sound .device)

namespace Call

/-- Looks up a rule and its place in the list. -/
def find (s : Store) (id : String) (k : Nat → Rule → Plan) : Plan :=
  match s.position? id, s.rule? id with
  | some i, some r => k i r
  | _, _ => .refuse (.ruleNotFound id)

/-- A draft becomes a rule, or the reason why it is none is reported. -/
def accept (d : Rule.Draft) (ids : Supply) (k : Rule → List Rule) : Plan :=
  match d.validate ids with
  | (.error e, _) => .refuse (.invalidRule e)
  | (.ok r, ids) => .rules r (k r) ids

/-- What a call comes to in a store. -/
def plan (s : Store) (ids : Supply) : Call → Plan
  | .add source target => accept (.new source target) ids fun r => s.rules ++ [r]
  | .update id edit => find s id fun i r => accept (r.apply edit) ids fun r => s.rules.set i r
  | .enable id enabled => find s id fun i r =>
    .rules { r with enabled } (s.rules.set i { r with enabled }) ids
  | .delete id => find s id fun i r => .rules r (s.rules.eraseIdx i) ids
  | .rate raw =>
    match Rate.ofInput raw with
    | .error r => .refuse (.invalidRate r)
    | .ok value => .rate value

end Call

namespace Opened

variable {σ : Type} [Medium σ]

/-- Makes a call. -/
def call (o : Opened σ) : Call → Except Store.Error Reply × Opened σ
  | .add source target => Prod.map (Except.map .rule) id (o.addRule source target)
  | .update i edit => Prod.map (Except.map .rule) id (o.updateRule i edit)
  | .enable i enabled => Prod.map (Except.map .rule) id (o.setEnabled i enabled)
  | .delete i => Prod.map (Except.map .rule) id (o.deleteRule i)
  | .rate raw => Prod.map (Except.map .rate) id (o.setRate raw)

/-- Replaces the settings in the store. -/
def withSettings (o : Opened σ) (settings : Settings) : Opened σ :=
  { o with store := { o.store with settings } }

/-- Answers with `a` if saving succeeded. -/
def answer (a : Reply) (r : Except Store.Error Unit × Opened σ) :
    Except Store.Error Reply × Opened σ := (r.1.map fun _ => a, r.2)

/-- Changes the store as planned and saves what was changed. -/
def carryOut (o : Opened σ) : Plan → Except Store.Error Reply × Opened σ
  | .refuse e => (.error e, o)
  | .rules r rules ids => answer (.rule r) ({ o with ids }.withRules rules).persistRules
  | .rate rate => answer (.rate rate) (o.withSettings ⟨rate⟩).persistSettings

/-! ## Making a call -/

theorem savingRules_eq (o : Opened σ) (r : Rule) :
    Prod.map (Except.map .rule) id (o.savingRules r) = answer (.rule r) o.persistRules := by
  unfold savingRules
  rcases o.persistRules with ⟨_ | _, _⟩ <;> rfl

/-- A call does what it comes to. -/
theorem call_eq (o : Opened σ) (c : Call) : o.call c = o.carryOut (c.plan o.store o.ids) := by
  cases c with
  | add source target =>
    simp only [call, addRule, Call.plan, Call.accept]
    rcases (Rule.Draft.new source target).validate o.ids with ⟨_ | r, ids⟩
    · rfl
    · exact savingRules_eq _ r
  | update i edit =>
    simp only [call, updateRule, Call.plan, Call.find]
    rcases o.store.position? i with _ | n <;> rcases o.store.rule? i with _ | r <;> try rfl
    simp only [Call.accept]
    rcases (r.apply edit).validate o.ids with ⟨_ | r, ids⟩
    · rfl
    · exact savingRules_eq _ r
  | enable i enabled =>
    simp only [call, setEnabled, Call.plan, Call.find]
    rcases o.store.position? i with _ | n <;> rcases o.store.rule? i with _ | r <;> try rfl
    exact savingRules_eq _ _
  | delete i =>
    simp only [call, deleteRule, Call.plan, Call.find]
    rcases o.store.position? i with _ | n <;> rcases o.store.rule? i with _ | r <;> try rfl
    exact savingRules_eq _ r
  | rate raw =>
    simp only [call, setRate, Call.plan]
    rcases Rate.ofInput raw with e | rate
    · rfl
    · have set : ({ o with store := { o.store with settings := ⟨rate⟩ } } : Opened σ) =
          o.withSettings ⟨rate⟩ := rfl
      simp only [set, carryOut]
      rcases (o.withSettings ⟨rate⟩).persistSettings with ⟨_ | _, _⟩ <;> rfl

end Opened

/-- The id of a draft is its own or the next of the supply. -/
theorem Rule.Draft.claimId_cases (d : Draft) (ids : Supply) :
    (d.claimId ids).2.id = ids.id ∧
      (d.id = some (d.claimId ids).1 ∨ (d.claimId ids).1 = ids.id ids.used) := by
  unfold claimId
  split
  · exact ⟨rfl, .inr rfl⟩
  · rename_i hid
    split
    · exact ⟨rfl, .inr rfl⟩
    · exact ⟨rfl, .inl hid⟩

namespace Call

/-! ## What a call comes to -/

/-- A rule that is looked up stands in the list, unless none there has the id. -/
theorem find_spec (s : Store) (id : String) (k : Nat → Rule → Plan) :
    (∀ r ∈ s.rules, r.id ≠ id) ∧ find s id k = .refuse (.ruleNotFound id) ∨
      ∃ i r, s.rules[i]? = some r ∧ r.id = id ∧ find s id k = k i r := by
  have same : s.rule? id = (s.position? id).bind fun i => s.rules[i]? :=
    List.find?_eq_bind_findIdx?_getElem?
  unfold find
  cases hi : s.position? id with
  | none =>
    refine .inl ⟨fun r hr => ?_, rfl⟩
    simpa using List.findIdx?_eq_none_iff.1 hi r hr
  | some i =>
    obtain ⟨lt, found, -⟩ := List.findIdx?_eq_some_iff_getElem.1 hi
    have entry : s.rules[i]? = some s.rules[i] := List.getElem?_eq_getElem lt
    rw [same, hi]
    refine .inr ⟨i, s.rules[i], entry, by simpa using found, ?_⟩
    simp only [Option.bind_some, entry]

theorem find_cases {s : Store} {id : String} {k : Nat → Rule → Plan} {p : Plan}
    (h : find s id k = p) :
    p = .refuse (.ruleNotFound id) ∨ ∃ i, ∃ r ∈ s.rules, r.id = id ∧ p = k i r := by
  rcases find_spec s id k with ⟨-, hf⟩ | ⟨i, r, entry, found, hf⟩
  · exact .inl (h.symm.trans hf)
  · exact .inr ⟨i, r, List.mem_of_getElem? entry, found, h.symm.trans hf⟩

/-- A draft that is accepted becomes a rule with its switch, its fields in their normal form, and
the id that it claims. -/
theorem accept_rules {d : Rule.Draft} {ids ids' : Supply} {k : Rule → List Rule} {r : Rule}
    {rules : List Rule} (h : accept d ids k = .rules r rules ids') :
    rules = k r ∧ r.enabled = d.enabled ∧ d.fields = .ok (r.source, r.target) ∧
      d.claimId ids = (r.id, ids') := by
  unfold accept at h
  split at h
  · cases h
  · rename_i accepted
    cases h
    exact ⟨rfl, Rule.Draft.validate_eq_ok accepted⟩

/-- The ids of rules that are to be saved stood in the store or come from the supply. -/
theorem plan_rules {s : Store} {ids ids' : Supply} {c : Call} {r : Rule} {rules : List Rule}
    (h : c.plan s ids = .rules r rules ids') :
    ids'.id = ids.id ∧ ∀ q ∈ rules, (∃ q' ∈ s.rules, q.id = q'.id) ∨ ∃ n, q.id = ids.id n := by
  have old : ∀ q ∈ s.rules, (∃ q' ∈ s.rules, q.id = q'.id) ∨ ∃ n, q.id = ids.id n :=
    fun q hq => .inl ⟨q, hq, rfl⟩
  cases c with
  | add source target =>
    obtain ⟨rfl, -, -, claimed⟩ := accept_rules h
    obtain ⟨hids, hr⟩ := (Rule.Draft.new source target).claimId_cases ids
    rw [claimed] at hids hr
    refine ⟨hids, fun q hq => ?_⟩
    rcases List.mem_append.1 hq with hq | hq
    · exact old q hq
    · obtain rfl := List.mem_singleton.1 hq
      rcases hr with hr | hr
      · cases hr
      · exact .inr ⟨_, hr⟩
  | update id edit =>
    rcases find_cases h with h | ⟨i, t, ht, -, h⟩
    · cases h
    · obtain ⟨rfl, -, -, claimed⟩ := accept_rules h.symm
      obtain ⟨hids, hr⟩ := (t.apply edit).claimId_cases ids
      rw [claimed] at hids hr
      refine ⟨hids, fun q hq => ?_⟩
      rcases List.mem_or_eq_of_mem_set hq with hq | rfl
      · exact old q hq
      · rcases hr with hr | hr
        · exact .inl ⟨t, ht, (Option.some.inj hr).symm⟩
        · exact .inr ⟨_, hr⟩
  | enable id enabled =>
    rcases find_cases h with h | ⟨i, t, ht, -, h⟩
    · cases h
    · cases h
      refine ⟨rfl, fun q hq => ?_⟩
      rcases List.mem_or_eq_of_mem_set hq with hq | rfl
      · exact old q hq
      · exact .inl ⟨t, ht, rfl⟩
  | delete id =>
    rcases find_cases h with h | ⟨i, t, ht, -, h⟩
    · cases h
    · cases h
      exact ⟨rfl, fun q hq => old q (List.mem_of_mem_eraseIdx hq)⟩
  | rate raw =>
    simp only [plan] at h
    split at h <;> cases h

/-- Only a rate that is accepted comes to be saved. -/
theorem plan_rate {s : Store} {ids : Supply} {c : Call} {value : Option Double}
    (h : c.plan s ids = .rate value) : ∃ raw, c = .rate raw ∧ Rate.ofInput raw = .ok value := by
  cases c with
  | add source target =>
    simp only [plan, accept] at h
    split at h <;> cases h
  | update id edit =>
    rcases find_cases h with h | ⟨i, t, -, -, h⟩
    · cases h
    · unfold accept at h
      split at h <;> cases h
  | enable id enabled =>
    rcases find_cases h with h | ⟨i, t, -, -, h⟩ <;> cases h
  | delete id =>
    rcases find_cases h with h | ⟨i, t, -, -, h⟩ <;> cases h
  | rate raw =>
    simp only [plan] at h
    split at h
    · cases h
    · rename_i accepted
      cases h
      exact ⟨raw, rfl, accepted⟩

end Call

end Reroute
