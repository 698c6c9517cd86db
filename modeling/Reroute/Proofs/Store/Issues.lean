import Reroute.Proofs.Rule.Accepted
import Reroute.Proofs.Rule.Ids
import Reroute.Proofs.Store.Operations
import Reroute.Proofs.Store.Reopening

/-!
# Rules that are out of order

Rules are loaded as they are stored, in order or not. Operations check what they put into a list, so
no rule gets out of order that was not so when it was loaded. A fault goes away when its rule is
changed or removed, and not otherwise.

## Main definitions

* `Rule.issues` — the rules of a list that are out of order, with their faults.
* `Rule.Lone` — a rule that is out of order is the first one of its id.
* `Call.mends?` — the id of the rule that a call puts in order or removes.
* `Opened.Tidy` — what holds of a store that is alone with its storage.

## Main results

* `Call.issues_of_plan` — what a call makes of the faults.
* `Opened.Tidy.act` — what an operation makes of them.
* `Opened.issues_acts` — what is left of them after a run.
-/

namespace Reroute

namespace Rule

/-! ## Faults of a list -/

/-- The rules of a list that are out of order, with their faults. -/
def issues (rs : List Rule) : List (String × Error) :=
  rs.filterMap fun r => r.issue?.map fun e => (r.id, e)

/-- A rule that is out of order is the first one of its id. -/
def Lone (rs : List Rule) : Prop := rs.Pairwise fun p q => p.id = q.id → q.issue? = none

variable {front back rs : List Rule} {r q : Rule} {id : String}

theorem lone_of_nodup (h : (ids rs).Nodup) : Lone rs :=
  (List.pairwise_map.1 h).imp fun differ same => absurd same differ

theorem issues_append : issues (front ++ back) = issues front ++ issues back :=
  List.filterMap_append

/-- A rule in order adds no fault. -/
theorem issues_insert (h : r.issue? = none) :
    issues (front ++ r :: back) = issues (front ++ back) := by
  simp [issues, h]

/-- Switching a rule on or off changes no fault. -/
theorem issue?_enabled (r : Rule) (enabled : Bool) : { r with enabled }.issue? = r.issue? := by
  simp only [issue?, toDraft, Draft.fields]

/-- A rule may be replaced by one of its id with the same fault. -/
theorem issues_replace (same : q.id = r.id) (fault : q.issue? = r.issue?) :
    issues (front ++ q :: back) = issues (front ++ r :: back) := by
  simp [issues, List.filterMap_cons, same, fault]

theorem filter_notMem_nil (faults : List (String × Error)) :
    faults.filter (fun x => x.1 ∉ []) = faults :=
  List.filter_eq_self.2 (by simp)

/-- No fault belongs to an id whose rules are in order. -/
theorem filter_issues (h : ∀ p ∈ rs, p.id = id → p.issue? = none) :
    (issues rs).filter (fun x => x.1 ∉ [id]) = issues rs := by
  refine List.filter_eq_self.2 fun x hx => ?_
  obtain ⟨p, hp, found⟩ := List.mem_filterMap.1 hx
  obtain ⟨e, fault, rfl⟩ := Option.map_eq_some_iff.1 found
  have other : p.id ≠ id := fun same => by simp [h p hp same] at fault
  simpa using other

/-- The faults that stay when a rule goes. -/
theorem issues_without (lone : Lone (front ++ r :: back)) (first : ∀ p ∈ front, p.id ≠ r.id) :
    (issues (front ++ r :: back)).filter (fun x => x.1 ∉ [r.id]) = issues (front ++ back) := by
  obtain ⟨-, rest, -⟩ := List.pairwise_append.1 lone
  have later := (List.pairwise_cons.1 rest).1
  have own : (issues [r]).filter (fun x => x.1 ∉ [r.id]) = [] := by
    cases hr : r.issue? <;> simp [issues, hr]
  have others : (issues front).filter (fun x => x.1 ∉ [r.id]) = issues front ∧
      (issues back).filter (fun x => x.1 ∉ [r.id]) = issues back :=
    ⟨filter_issues fun p hp same => absurd same (first p hp),
      filter_issues fun p hp same => later p hp same.symm⟩
  rw [List.append_cons, issues_append, issues_append, List.filter_append, List.filter_append, own,
    others.1, others.2, List.append_nil, issues_append]

/-- An id that stands in a list stands in its first rule there. -/
theorem exists_first (h : id ∈ ids rs) :
    ∃ front r back, rs = front ++ r :: back ∧ (∀ p ∈ front, p.id ≠ r.id) ∧ r.id = id := by
  have some : (rs.find? (·.id = id)).isSome := by simpa [mem_ids] using h
  obtain ⟨r, found⟩ := Option.isSome_iff_exists.1 some
  obtain ⟨own, front, back, list, first⟩ := List.find?_eq_some_iff_append.1 found
  obtain rfl : r.id = id := by simpa using own
  exact ⟨front, r, back, list, by simpa using first, rfl⟩

theorem forall_replace {p : Rule → Prop} (h : ∀ t ∈ front ++ r :: back, p t) (own : p q) :
    ∀ t ∈ front ++ q :: back, p t := by
  simp only [List.forall_mem_append, List.forall_mem_cons] at h ⊢
  exact ⟨h.1, own, h.2.2⟩

/-- Replacing a rule by one of its id does no harm if that one is in order whenever the other is. -/
theorem Lone.replace (h : Lone (front ++ r :: back)) (same : q.id = r.id)
    (fault : r.issue? = none → q.issue? = none) : Lone (front ++ q :: back) := by
  obtain ⟨before, rest, across⟩ := List.pairwise_append.1 h
  obtain ⟨later, after⟩ := List.pairwise_cons.1 rest
  refine List.pairwise_append.2 ⟨before, List.pairwise_cons.2 ⟨by simpa [same] using later, after⟩,
    fun p hp t ht => ?_⟩
  rcases List.mem_cons.1 ht with rfl | ht
  · intro own
    exact fault (across p hp r List.mem_cons_self (own.trans same))
  · exact across p hp t (List.mem_cons_of_mem r ht)

end Rule

/-! ## Calls -/

/-- The first rule of an id is the one that is looked up. -/
theorem Store.rule?_of_first {s : Store} {front back : List Rule} {r : Rule}
    (list : s.rules = front ++ r :: back) (first : ∀ p ∈ front, p.id ≠ r.id) :
    s.rule? r.id = some r := by
  have none : front.find? (fun p => p.id = r.id) = none :=
    List.find?_eq_none.2 (by simpa using first)
  simp [rule?, list, List.find?_append, none]

namespace Call

/-- A call finds the first rule of an id. -/
theorem find_of_first {s : Store} {front back : List Rule} {r : Rule}
    (list : s.rules = front ++ r :: back) (first : ∀ p ∈ front, p.id ≠ r.id)
    (k : Nat → Rule → Plan) : find s r.id k = k front.length r := by
  have place : s.position? r.id = some front.length := by
    have none : front.findIdx? (fun p => p.id = r.id) = none :=
      List.findIdx?_eq_none_iff.2 (by simpa using first)
    simp [Store.position?, list, List.findIdx?_append, none, List.findIdx?_cons]
  simp only [find, place, Store.rule?_of_first list first]

/-- A rule that is looked up is the first one of its id. -/
theorem find_first (s : Store) (id : String) (k : Nat → Rule → Plan) :
    find s id k = .refuse (.ruleNotFound id) ∨
      ∃ front r back, s.rules = front ++ r :: back ∧ (∀ p ∈ front, p.id ≠ r.id) ∧ r.id = id ∧
        find s id k = k front.length r := by
  by_cases h : id ∈ Rule.ids s.rules
  · obtain ⟨front, r, back, list, first, rfl⟩ := Rule.exists_first h
    exact .inr ⟨front, r, back, list, first, rfl, find_of_first list first k⟩
  · rcases find_spec s id k with ⟨-, none⟩ | ⟨i, r, entry, own, -⟩
    · exact .inl none
    · exact absurd (Rule.mem_ids.2 ⟨r, List.mem_of_getElem? entry, own⟩) h

/-- The id of the rule that a call puts in order or removes. -/
def mends? : Call → Option String
  | .update id _ | .delete id => some id
  | _ => none

/-- If the call gives a new target, it asks for a stable URL at most. -/
def Stable : Call → Prop
  | .add _ target | .update _ ⟨_, some target⟩ => Target.Stable target
  | _ => True

/-- The call checks the fields of its rule. -/
def Checks : Call → Prop
  | .add _ _ | .update _ _ => True
  | _ => False

variable {s : Store} {ids ids' : Supply} {c : Call} {r : Rule} {rules : List Rule}

/-- A draft of a rule has a stable target if the rule and the call do. -/
theorem stable_apply {q : Rule} {edit : Rule.Edit} {id : String} (own : Target.Stable q.target)
    (typed : (Call.update id edit).Stable) : Target.Stable (q.apply edit).target := by
  obtain ⟨source, target⟩ := edit
  cases target with
  | none => exact own
  | some target => exact typed

/-- A rule that was checked comes from an accepted draft with a stable target. -/
theorem checked_of_plan (stable : ∀ q ∈ s.rules, Target.Stable q.target) (typed : c.Stable)
    (checks : c.Checks) (h : c.plan s ids = .rules r rules ids') :
    ∃ d : Rule.Draft, Target.Stable d.target ∧ d.validate ids = (.ok r, ids') := by
  have accepted {d : Rule.Draft} {k : Rule → List Rule} (h : accept d ids k = .rules r rules ids') :
      d.validate ids = (.ok r, ids') := by
    unfold accept at h
    split at h
    · cases h
    · rename_i valid
      cases h
      exact valid
  cases c with
  | add source target => exact ⟨.new source target, typed, accepted h⟩
  | update id edit =>
    rcases find_cases h with h | ⟨i, q, member, -, h⟩
    · cases h
    · have planned : accept (q.apply edit) ids (fun r => s.rules.set i r) = .rules r rules ids' :=
        h.symm
      exact ⟨q.apply edit, stable_apply (stable q member) typed, accepted planned⟩
  | _ => exact checks.elim

/-- What a call makes of the faults: those of the rule that it puts in order or removes go, and no
others come. -/
theorem issues_of_plan (named : ∀ q ∈ s.rules, q.id ≠ "") (lone : Rule.Lone s.rules)
    (stable : ∀ q ∈ s.rules, Target.Stable q.target) (typed : c.Stable)
    (h : c.plan s ids = .rules r rules ids') :
    Rule.issues rules = (Rule.issues s.rules).filter (fun x => x.1 ∉ c.mends?.toList) ∧
      Rule.Lone rules ∧ ∀ q ∈ rules, Target.Stable q.target := by
  have found {id : String} {k : Nat → Rule → Plan} (h : find s id k = .rules r rules ids') :
      ∃ front q back, s.rules = front ++ q :: back ∧ (∀ p ∈ front, p.id ≠ q.id) ∧ q.id = id ∧
        k front.length q = .rules r rules ids' := by
    rcases find_first s id k with none | ⟨front, q, back, list, first, own, hf⟩
    · cases none.symm.trans h
    · exact ⟨front, q, back, list, first, own, hf.symm.trans h⟩
  cases c with
  | add source target =>
    obtain ⟨rfl, -, fields, -⟩ := accept_rules h
    have typed : Target.Stable (Rule.Draft.new source target).target := typed
    obtain ⟨-, kept⟩ := Rule.Draft.fields_again r.toDraft typed fields
    have valid := Rule.issue?_eq_none typed fields
    refine ⟨?_, List.pairwise_append.2 ⟨lone, List.pairwise_singleton _ _, ?_⟩, ?_⟩
    · rw [Rule.issues_insert valid, List.append_nil]
      exact (Rule.filter_notMem_nil _).symm
    · intro p _ q hq _
      exact List.mem_singleton.1 hq ▸ valid
    · intro q hq
      rcases List.mem_append.1 hq with hq | hq
      · exact stable q hq
      · exact List.mem_singleton.1 hq ▸ kept
  | update id edit =>
    obtain ⟨front, q, back, list, first, rfl, planned⟩ := found h
    rw [list] at named lone stable planned ⊢
    obtain ⟨rfl, -, fields, claimed⟩ := accept_rules planned
    have member : q ∈ front ++ q :: back := by simp
    have typed := stable_apply (stable q member) typed
    obtain ⟨-, kept⟩ := Rule.Draft.fields_again r.toDraft typed fields
    have valid := Rule.issue?_eq_none typed fields
    have own : r.id = q.id := by
      have same : (q.apply edit).claimId ids = (q.id, ids) := if_neg (named q member)
      exact (Prod.mk.inj (claimed.symm.trans same)).1
    have replaced : (front ++ q :: back).set front.length r = front ++ r :: back := by simp
    rw [replaced]
    refine ⟨?_, lone.replace own fun _ => valid, Rule.forall_replace stable kept⟩
    rw [Rule.issues_insert valid]
    exact (Rule.issues_without lone first).symm
  | enable id enabled =>
    obtain ⟨front, q, back, list, first, rfl, planned⟩ := found h
    rw [list] at lone stable planned ⊢
    cases planned
    have member : q ∈ front ++ q :: back := by simp
    have replaced : (front ++ q :: back).set front.length { q with enabled } =
      front ++ { q with enabled } :: back := by simp
    have same : Rule.issues (front ++ { q with enabled } :: back) =
      Rule.issues (front ++ q :: back) := Rule.issues_replace rfl (q.issue?_enabled enabled)
    rw [replaced, same]
    exact ⟨(Rule.filter_notMem_nil _).symm, lone.replace rfl (q.issue?_enabled enabled).trans,
      Rule.forall_replace stable (stable q member)⟩
  | delete id =>
    obtain ⟨front, q, back, list, first, rfl, planned⟩ := found h
    rw [list] at lone stable planned ⊢
    cases planned
    have removed : (front ++ r :: back).eraseIdx front.length = front ++ back := by
      simp [List.eraseIdx_append_of_length_le]
    have rest : (front ++ back).Sublist (front ++ r :: back) :=
      (List.sublist_cons_self r back).append_left front
    rw [removed]
    exact ⟨(Rule.issues_without lone first).symm, lone.sublist rest,
      fun p hp => stable p (rest.subset hp)⟩
  | rate raw =>
    simp only [plan] at h
    split at h <;> cases h

end Call

/-! ## Operations -/

/-- If the operation gives a new target, it asks for a stable URL at most. -/
def Act.Stable : Act → Prop
  | .call c => c.Stable
  | _ => True

namespace Opened

variable {σ : Type} [Medium σ] {kept : Json → Prop}

/-- The store lists what is stored, a rule out of order is the first one of its id, and targets are
stable. -/
structure Tidy (o : Opened σ) : Prop extends Listed o where
  lone : Rule.Lone o.store.rules
  stable : ∀ r ∈ o.store.rules, Target.Stable r.target

/-! ## Saving and loading -/

theorem Listed.congr {o o' : Opened σ} (h : o.Listed) (links : o'.store.links = o.store.links)
    (rules : o'.store.rules = o.store.rules) (ids : o'.ids = o.ids)
    (read : readOrNull o'.medium o.store.links.config Store.rulesKey =
      readOrNull o.medium o.store.links.config Store.rulesKey) : o'.Listed := by
  refine ⟨links ▸ h.sound, ids ▸ h.fresh, rules ▸ h.named, ?_, ?_⟩
  · rw [links, read, ids, rules, h.rules]
  · rw [links, read, h.complete]

/-- Loading the rules that are stored changes nothing. -/
theorem Listed.loadRules_eq {o : Opened σ} (h : o.Listed) : o.loadRules = o := by
  simp only [loadRules, h.rules, h.complete, Bool.false_eq_true, if_false]

/-- Saving something else than the rules leaves them stored as they are. -/
theorem Listed.save_other (hm : Medium.Faithful σ kept) {o : Opened σ} (h : o.Listed) {key : String}
    (other : key ≠ Store.rulesKey) (v : Json) :
    ∃ m, o.save key v = (.ok (), { o with medium := m }) ∧ Listed { o with medium := m } := by
  obtain ⟨m, saved, -, frame⟩ := save_eq hm h.sound key v
  exact ⟨m, saved, h.congr rfl rfl rfl (frame _ _ other.symm)⟩

/-- A call that is not refused succeeds, and leaves what is planned, stored as it is listed. -/
theorem Listed.call (hm : Medium.Faithful σ kept) (hk : ∀ rs, kept (Rule.encodeList rs))
    {o : Opened σ} (h : o.Listed) (c : Call) :
    (∃ e, (o.call c).1 = .error e ∧ (o.call c).2 = o) ∨
    (∃ r rules ids, c.plan o.store o.ids = .rules r rules ids ∧ (o.call c).1 = .ok (.rule r) ∧
      (o.call c).2.store.rules = rules ∧ (o.call c).2.Listed) ∨
    ∃ value, c.plan o.store o.ids = .rate value ∧ (o.call c).2.store.rules = o.store.rules ∧
      (o.call c).2.Listed := by
  rw [call_eq]
  cases hp : c.plan o.store o.ids with
  | refuse e => exact .inl ⟨e, rfl, rfl⟩
  | rules r rules ids =>
    obtain ⟨hids, origin⟩ := Call.plan_rules hp
    have named : ∀ q ∈ rules, q.id ≠ "" := by
      intro q hq
      rcases origin q hq with ⟨q', hq', hid⟩ | ⟨n, hid⟩
      · exact hid ▸ h.named q' hq'
      · exact hid ▸ h.fresh n
    obtain ⟨m, saved, listed, -⟩ := persistRules_eq hm hk (o := { o with ids }.withRules rules)
      h.sound (fun n => hids ▸ h.fresh n) named
    refine .inr (.inl ⟨r, rules, ids, rfl, ?_⟩)
    simp only [carryOut, answer, saved]
    exact ⟨rfl, rfl, listed⟩
  | rate value =>
    have settings : Listed (o.withSettings ⟨value⟩) := h.congr rfl rfl rfl rfl
    obtain ⟨m, saved, listed⟩ := settings.save_other hm
      (by decide : Store.settingsKey ≠ Store.rulesKey) (Settings.encode ⟨value⟩)
    have persisted : (o.withSettings ⟨value⟩).persistSettings = _ := saved
    refine .inr (.inr ⟨value, rfl, ?_⟩)
    simp only [carryOut, answer, persisted]
    exact ⟨rfl, listed⟩

/-! ## Runs -/

/-- The ids whose faults an operation takes away. -/
def mended (o : Opened σ) : Act → List String
  | .call c => if (o.call c).1.isOk then c.mends?.toList else []
  | _ => []

/-- The ids whose faults were taken away in a run. -/
def mendedBy : Opened σ → List Act → List String
  | _, [] => []
  | o, a :: as => o.mended a ++ (o.act a).mendedBy as

/-- The store after some operations. -/
def acts (o : Opened σ) (as : List Act) : Opened σ := as.foldl act o

/-- Rules that stay as they are keep their faults. -/
theorem Tidy.keep {o o' : Opened σ} (h : o.Tidy) (listed : o'.Listed)
    (rules : o'.store.rules = o.store.rules) :
    o'.Tidy ∧ o'.store.issues = o.store.issues.filter fun x => x.1 ∉ [] := by
  refine ⟨⟨listed, rules ▸ h.lone, rules ▸ h.stable⟩, ?_⟩
  rw [Rule.filter_notMem_nil, Store.issues, rules]
  rfl

/-- An operation leaves a store tidy, and takes away the faults of a rule that is changed or removed
and no others. -/
theorem Tidy.act (hm : Medium.Faithful σ kept) (hk : ∀ rs, kept (Rule.encodeList rs))
    {o : Opened σ} (h : o.Tidy) (a : Act) (typed : a.Stable) :
    (o.act a).Tidy ∧ (o.act a).store.issues = o.store.issues.filter fun x => x.1 ∉ o.mended a := by
  cases a with
  | call c =>
    rcases h.toListed.call hm hk c with ⟨e, refused, same⟩ |
      ⟨r, rules, ids, planned, answered, list, listed⟩ | ⟨value, planned, same, listed⟩
    · have nothing : o.mended (.call c) = [] := by
        simp [mended, refused, Except.isOk, Except.toBool]
      have after : o.act (.call c) = o := same
      rw [nothing, after]
      exact h.keep h.toListed rfl
    · have taken : o.mended (.call c) = c.mends?.toList := by
        simp [mended, answered, Except.isOk, Except.toBool]
      obtain ⟨issues, lone, stable⟩ := Call.issues_of_plan h.named h.lone h.stable typed planned
      rw [taken]
      rw [← list] at issues lone stable
      exact ⟨⟨listed, lone, stable⟩, issues⟩
    · obtain ⟨raw, rfl, -⟩ := Call.plan_rate planned
      have nothing : o.mended (.call (.rate raw)) = [] := ite_self _
      rw [nothing]
      exact h.keep listed same
  | loadRules =>
    have same : o.act .loadRules = o := h.toListed.loadRules_eq
    rw [same]
    exact h.keep h.toListed rfl
  | load τ =>
    cases τ with
    | metrics => exact h.keep (h.toListed.congr rfl rfl rfl rfl) rfl
    | settings => exact h.keep (h.toListed.congr rfl rfl rfl rfl) rfl
  | persistRules =>
    obtain ⟨m, saved, listed, -⟩ := persistRules_eq hm hk h.sound h.fresh h.named
    have after : o.act .persistRules = { o with medium := m } := congrArg Prod.snd saved
    rw [after]
    exact h.keep listed rfl
  | persistSettings =>
    obtain ⟨m, saved, listed⟩ := h.toListed.save_other hm
      (by decide : Store.settingsKey ≠ Store.rulesKey) o.store.settings.encode
    have after : o.act .persistSettings = { o with medium := m } := congrArg Prod.snd saved
    rw [after]
    exact h.keep listed rfl

theorem Tidy.acts (hm : Medium.Faithful σ kept) (hk : ∀ rs, kept (Rule.encodeList rs))
    {o : Opened σ} (h : o.Tidy) (as : List Act) (typed : ∀ a ∈ as, a.Stable) :
    (o.acts as).Tidy ∧
      (o.acts as).store.issues = o.store.issues.filter fun x => x.1 ∉ o.mendedBy as := by
  induction as generalizing o with
  | nil => exact h.keep h.toListed rfl
  | cons a as ih =>
    obtain ⟨first, rest⟩ := List.forall_mem_cons.1 typed
    obtain ⟨tidy, faults⟩ := h.act hm hk a first
    obtain ⟨tidy', faults'⟩ := ih tidy rest
    refine ⟨tidy', faults'.trans ?_⟩
    rw [faults, List.filter_filter]
    refine List.filter_congr fun x _ => ?_
    simp [mendedBy, Bool.and_comm]

/-- A rule that an addition or a change answers with is accepted again as it is. -/
theorem Tidy.validate_toDraft (hm : Medium.Faithful σ kept) (hk : ∀ rs, kept (Rule.encodeList rs))
    {o : Opened σ} (h : o.Tidy) {c : Call} (typed : c.Stable) (checks : c.Checks) {r : Rule}
    (answered : (o.call c).1 = .ok (.rule r)) (later : Supply) :
    r.toDraft.validate later = (.ok r, later) := by
  rcases h.toListed.call hm hk c with ⟨e, refused, -⟩ | ⟨q, rules, ids, planned, ok, -, -⟩ |
    ⟨value, planned, -, -⟩
  · cases refused.symm.trans answered
  · cases ok.symm.trans answered
    obtain ⟨d, stable, valid⟩ := Call.checked_of_plan h.stable typed checks planned
    exact Rule.validate_toDraft h.fresh stable valid later
  · obtain ⟨raw, rfl, -⟩ := Call.plan_rate planned
    exact checks.elim

/-- An accepted rule is accepted again as it is. So no operation puts a rule out of order: after any
run, the faults are those found on opening, without those of the rules that were changed or
removed. -/
theorem issues_acts (hm : Medium.Faithful σ kept) (hk : ∀ rs, kept (Rule.encodeList rs))
    {links : Links} (sound : links.config.fault = none) (m : σ) {ids : Supply}
    (fresh : ∀ n, ids.id n ≠ "") :
    (∀ (d : Rule.Draft) (supply supply' : Supply) (r : Rule), (∀ n, supply.id n ≠ "") →
      Target.Stable d.target → d.validate supply = (.ok r, supply') →
      ∀ later, r.toDraft.validate later = (.ok r, later)) ∧
    let o := openOn links m ids
    (Rule.ids o.store.rules).Nodup → (∀ r ∈ o.store.rules, Target.Stable r.target) →
    ∀ as : List Act, (∀ a ∈ as, a.Stable) →
      (o.acts as).store.issues = o.store.issues.filter (fun x => x.1 ∉ o.mendedBy as) ∧
      ∀ c : Call, c.Stable → c.Checks → ∀ r, ((o.acts as).call c).1 = .ok (.rule r) →
        ∀ later, r.toDraft.validate later = (.ok r, later) := by
  refine ⟨fun d supply supply' r named stable valid => Rule.validate_toDraft named stable valid,
    fun distinct stable as typed => ?_⟩
  have listed := (settled_openOn hm hk sound m fresh).toListed
  have tidy : Tidy (openOn links m ids) := ⟨listed, Rule.lone_of_nodup distinct, stable⟩
  obtain ⟨after, faults⟩ := tidy.acts hm hk as typed
  exact ⟨faults, fun c typed checks r answered =>
    after.validate_toDraft hm hk typed checks answered⟩

/-- Two rules are stored, and the first is out of order. It is switched on, changed in vain, and
loaded again, while another rule is added and the second one is removed. -/
theorem issues_acts_loaded :
    let links := Links.working true
    let ids := Supply.from 0
    let stored : Json := .array [
      .object [("id", .number (.natural 1)), ("source_hostname", .string "x"),
        ("target_url", .string "y")],
      .object [("id", .string "a"), ("source_hostname", .string "a.b"),
        ("target_url", .string "http://c.d/")]]
    let memory : Memory := ⟨[(⟨.sync, Store.rulesKey⟩, stored)], .empty⟩
    let database := Database.empty.upsert ("sync", Store.rulesKey) (.text stored.print)
    let session : Session := ⟨database, ⟨[], 0, 0, .empty⟩⟩
    let as : List Act := [.call (.add "e.f" "http://g.h/"), .call (.enable "1" true),
      .call (.update "1" ⟨some "x.y", none⟩), .loadRules, .call (.delete "a")]
    let o := openOn links memory ids
    let o' := openOn links session ids
    (o.acts as).store.issues = o.store.issues.filter (fun x => x.1 ∉ o.mendedBy as) ∧
      (o'.acts as).store.issues = o'.store.issues.filter (fun x => x.1 ∉ o'.mendedBy as) := by
  intro links ids stored memory database session as o o'
  have fresh : ∀ n, ids.id n ≠ "" := Supply.from_ne_empty 0
  have refused : Target.Stable "y" := by
    have nothing : Url.read? (Text.trim "y".toList) = none := by decide +kernel
    intro u reading
    rw [nothing] at reading
    cases reading
  have first : Target.Stable (Url.ofSource "c.d") := Target.stable_ofSource
    ⟨by decide +kernel, by decide +kernel⟩ (by decide +kernel) (by decide +kernel)
  have second : Target.Stable (Url.ofSource "g.h") := Target.stable_ofSource
    ⟨by decide +kernel, by decide +kernel⟩ (by decide +kernel) (by decide +kernel)
  have texts : Url.ofSource "c.d" = "http://c.d/" ∧ Url.ofSource "g.h" = "http://g.h/" := by decide
  rw [texts.1] at first
  rw [texts.2] at second
  have loaded : o.store.rules = [⟨"1", false, "x", "y"⟩, ⟨"a", false, "a.b", "http://c.d/"⟩] := by
    decide +kernel
  have loaded' : o'.store.rules = o.store.rules := by decide +kernel
  have distinct : (Rule.ids o.store.rules).Nodup := by
    rw [loaded]
    decide
  have stable : ∀ r ∈ o.store.rules, Target.Stable r.target := by
    rw [loaded]
    simpa using ⟨refused, first⟩
  have typed : ∀ a ∈ as, a.Stable := by
    simpa [as, Act.Stable, Call.Stable] using second
  obtain ⟨-, inMemory⟩ := issues_acts Memory.faithful (fun _ => trivial)
    (rfl : links.config.fault = none) memory fresh
  obtain ⟨-, inDatabase⟩ := issues_acts Session.faithful Rule.read?_print_encodeList
    (rfl : links.config.fault = none) session fresh
  exact ⟨(inMemory distinct stable as typed).1,
    (inDatabase (loaded' ▸ distinct) (loaded' ▸ stable) as typed).1⟩

end Opened

end Reroute
