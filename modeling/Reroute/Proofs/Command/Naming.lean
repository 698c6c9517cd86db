import Reroute.Proofs.Command.Program
import Reroute.Proofs.Store.Issues

/-!
# Rules that are named by a text

A text names a rule by its id, or by the beginning of its id if no other rule of the list has an id
with this beginning. The store looks an id up again and takes the first rule that has it. So a rule
that was named is found, and only the first one of its id is changed or removed.

What is printed of an id is its beginning, or all of a short one. It names the rule that it was
printed for, or several rules, unless it is the whole id of another rule.

## Main definitions

* `Command.Begins`, `Command.Names` — an id begins with a text, a text names a rule.
* `Command.Alone` — a rule is the only one whose id begins with a text.
* `Command.Makes` — an action makes a call, `Command.Forwards` — commands that are given a text call
  the store with an id.
* `Opened.Lists` — what a call leaves and answers that is not refused.
* `Opened.ActsOn` — a call changes or removes a rule between others, or is refused for its fields.

## Main results

* `Command.resolveId_cases` — what a text means among rules.
* `Opened.actsOn_first` — a call concerns the first rule of the id that it names.
* `Command.forwards_of_resolveId` — what a text means is what the store is called with.
* `Command.resolveId_acts` — the texts that mean a rule, and what is done to that rule.
* `Command.resolveId_shortId` — what a printed id means, `Command.exists_misled` — not always its
  rule.
-/

namespace Reroute

/-! ## Calls that name a rule -/

namespace Opened

variable {σ : Type} [Medium σ] {o : Opened σ} {c : Call} {front back : List Rule} {r : Rule}
  {id : String}

/-- A call leaves a list of rules, and answers with a rule unless saving fails. -/
structure Lists (o : Opened σ) (c : Call) (r : Rule) (rules : List Rule) : Prop where
  store : (o.call c).2.store = { o.store with rules }
  answer : (o.call c).1 = .ok (.rule r) ∨ ∃ e, (o.call c).1 = .error (.notSaved e)

/-- A call that names a rule between others changes or removes this rule and no other. A change that
asks for fields which are out of order is refused. -/
def ActsOn (o : Opened σ) (front : List Rule) (r : Rule) (back : List Rule) : Call → Prop
  | .update id edit =>
    (∃ e, (r.apply edit).fields = .error e ∧
      o.call (.update id edit) = (.error (.invalidRule e), o)) ∨
    ∃ q, (r.apply edit).fields = .ok (q.source, q.target) ∧ q.enabled = r.enabled ∧
      (r.id ≠ "" → q.id = r.id) ∧ o.Lists (.update id edit) q (front ++ q :: back)
  | .enable id enabled =>
    o.Lists (.enable id enabled) { r with enabled } (front ++ { r with enabled } :: back)
  | .delete id => o.Lists (.delete id) r (front ++ back)
  | .add _ _ | .rate _ => False

theorem lists_of_plan {rules : List Rule} {ids : Supply}
    (h : c.plan o.store o.ids = .rules r rules ids) : o.Lists c r rules := by
  obtain ⟨m, after⟩ := o.call_snd c
  have answer := o.call_fst c
  rw [h] at after answer
  exact ⟨by rw [after]; rfl, answer.imp_right And.right⟩

/-- A call concerns the first rule of the id that it names. -/
theorem actsOn_first (list : o.store.rules = front ++ r :: back) (first : ∀ p ∈ front, p.id ≠ r.id)
    (target : c.target? = some r.id) : o.ActsOn front r back c := by
  have found (k : Nat → Rule → Plan) := Call.find_of_first list first k
  cases c with
  | update id edit =>
    obtain rfl : id = r.id := Option.some.inj target
    have plan : (Call.update r.id edit).plan o.store o.ids = Call.accept (r.apply edit) o.ids
        fun q => o.store.rules.set front.length q := found _
    cases fields : (r.apply edit).fields with
    | error e =>
      have refused : (Call.update r.id edit).plan o.store o.ids = .refuse (.invalidRule e) := by
        rw [plan, Call.accept, Rule.Draft.validate, fields]
      exact .inl ⟨e, fields, by rw [call_eq, refused]; rfl⟩
    | ok normal =>
      obtain ⟨source, target⟩ := normal
      obtain ⟨⟨own, ids⟩, claimed⟩ : ∃ x, (r.apply edit).claimId o.ids = x := ⟨_, rfl⟩
      have changed : (Call.update r.id edit).plan o.store o.ids = .rules
          ⟨own, r.enabled, source, target⟩
          (front ++ ⟨own, r.enabled, source, target⟩ :: back) ids := by
        rw [plan, Call.accept, Rule.Draft.validate, fields]
        simp only [claimed, list]
        simp [Rule.apply]
      refine .inr ⟨⟨own, r.enabled, source, target⟩, fields, rfl, fun named => ?_,
        lists_of_plan changed⟩
      have kept : (r.apply edit).claimId o.ids = (r.id, o.ids) := if_neg named
      exact (Prod.mk.inj (claimed.symm.trans kept)).1
  | enable id enabled =>
    obtain rfl : id = r.id := Option.some.inj target
    have changed : (Call.enable r.id enabled).plan o.store o.ids =
        .rules { r with enabled } (front ++ { r with enabled } :: back) o.ids := by
      refine (found _).trans ?_
      simp [list]
    exact lists_of_plan changed
  | delete id =>
    obtain rfl : id = r.id := Option.some.inj target
    have removed : (Call.delete r.id).plan o.store o.ids = .rules r (front ++ back) o.ids := by
      refine (found _).trans ?_
      simp [list, List.eraseIdx_append_of_length_le]
    exact lists_of_plan removed
  | _ => cases target

/-- A call that names no rule, or the id of one in the list, does not miss its rule. -/
theorem call_ne_notFound (known : ∀ id, c.target? = some id → id ∈ Rule.ids o.store.rules)
    (i : String) : (o.call c).1 ≠ .error (.ruleNotFound i) := by
  intro missed
  cases target : c.target? with
  | some id =>
    obtain ⟨-, none⟩ := ((o.truthful c).notFound id target i).1 missed
    obtain ⟨r, member, own⟩ := Rule.mem_ids.1 (known id target)
    exact none r member own
  | none =>
    have reply : (c.plan o.store o.ids).reply = .error (.ruleNotFound i) := by
      rcases o.call_fst c with same | ⟨-, e, failed⟩
      · exact same.symm.trans missed
      · cases failed.symm.trans missed
    cases c with
    | add source target =>
      simp only [Call.plan, Call.accept] at reply
      split at reply <;> cases reply
    | rate raw =>
      simp only [Call.plan] at reply
      split at reply <;> cases reply
    | _ => cases target

end Opened

namespace Command

variable {rules : List Rule} {text : String} {r q : Rule}

/-! ## What a text means -/

/-- The id of a rule begins with a text that is not empty. -/
def Begins (text : String) (r : Rule) : Prop := text ≠ "" ∧ text.toList <+: r.id.toList

instance : DecidablePred (Begins text) := fun _ => inferInstanceAs (Decidable (_ ∧ _))

/-- A text names a rule if it is its id or the beginning of it. -/
def Names (text : String) (r : Rule) : Prop := r.id = text ∨ Begins text r

instance : DecidablePred (Names text) := fun _ => inferInstanceAs (Decidable (_ ∨ _))

/-- The rule stands at the only place of a list where an id begins with a text. -/
def Alone (rules : List Rule) (text : String) (r : Rule) : Prop :=
  ∃ front back, rules = front ++ r :: back ∧ Begins text r ∧ ∀ q ∈ front ++ back, ¬Begins text q

theorem begins_self (h : r.id = text) (typed : text ≠ "") : Begins text r :=
  ⟨typed, h ▸ List.prefix_refl _⟩

theorem alone_iff : Alone rules text r ↔ rules.filter (Begins text) = [r] := by
  simp only [List.filter_eq_cons_iff, List.filter_eq_nil_iff, decide_eq_true_eq, Alone,
    List.forall_mem_append]
  exact ⟨fun ⟨front, back, list, own, before, after⟩ => ⟨front, back, list, before, own, after⟩,
    fun ⟨front, back, list, before, own, after⟩ => ⟨front, back, list, own, before, after⟩⟩

theorem Alone.eq (h : Alone rules text r) (member : q ∈ rules) (begins : Begins text q) :
    q = r := by
  have found : q ∈ rules.filter (Begins text) := List.mem_filter.2 ⟨member, by simpa using begins⟩
  rw [alone_iff.1 h] at found
  exact List.mem_singleton.1 found

theorem Alone.mem (h : Alone rules text r) : r ∈ rules ∧ Begins text r := by
  obtain ⟨front, back, rfl, begins, -⟩ := h
  exact ⟨by simp, begins⟩

/-- A text means the id that it is. Otherwise it depends on the number of the ids that begin with it
whether it means none, one or several. -/
theorem resolveId_cases (rules : List Rule) (text : String) :
    text ∈ Rule.ids rules ∧ resolveId rules text = .ok text ∨
    text ∉ Rule.ids rules ∧
      ((∀ r ∈ rules, ¬Begins text r) ∧ resolveId rules text = .error (.noSuchRule text) ∨
      (∃ r, Alone rules text r ∧ resolveId rules text = .ok r.id) ∨
      2 ≤ rules.countP (Begins text) ∧
        resolveId rules text = .error (.ambiguous text (rules.countP (Begins text)))) := by
  have exact : rules.any (·.id = text) = true ↔ text ∈ Rule.ids rules := by simp [Rule.mem_ids]
  by_cases member : text ∈ Rule.ids rules
  · exact .inl ⟨member, by rw [resolveId, if_pos (exact.2 member)]⟩
  refine .inr ⟨member, ?_⟩
  rw [resolveId, if_neg (exact.not.2 member)]
  by_cases blank : text = ""
  · exact .inl ⟨fun r _ begins => begins.1 blank, if_pos blank⟩
  have filter : (rules.filter fun r => text.toList.isPrefixOf r.id.toList) =
      rules.filter (Begins text) := by
    refine List.filter_congr fun r _ => ?_
    rw [Bool.eq_iff_iff, List.isPrefixOf_iff_prefix, decide_eq_true_eq, Begins]
    exact (and_iff_right blank).symm
  obtain ⟨found, list⟩ : ∃ found, rules.filter (Begins text) = found := ⟨_, rfl⟩
  rw [if_neg blank, filter, List.countP_eq_length_filter, list]
  match found with
  | [] => exact .inl ⟨by simpa [List.filter_eq_nil_iff] using list, rfl⟩
  | [r] => exact .inr (.inl ⟨r, alone_iff.2 list, rfl⟩)
  | r :: q :: rest => exact .inr (.inr ⟨by simp, rfl⟩)

theorem resolveId_of_mem (h : text ∈ Rule.ids rules) : resolveId rules text = .ok text := by
  rcases resolveId_cases rules text with ⟨-, own⟩ | ⟨other, -⟩
  · exact own
  · exact absurd h other

/-- A text means its own id, or that of the only rule whose id begins with it. -/
theorem resolveId_eq_ok_iff {id : String} : resolveId rules text = .ok id ↔
    id = text ∧ text ∈ Rule.ids rules ∨ ∃ r, r.id = id ∧ Alone rules text r := by
  constructor
  · intro h
    rcases resolveId_cases rules text with ⟨member, own⟩ | ⟨-, ⟨-, none⟩ | ⟨r, alone, one⟩ |
      ⟨-, several⟩⟩
    · exact .inl ⟨Except.ok.inj (h.symm.trans own), member⟩
    · cases h.symm.trans none
    · exact .inr ⟨r, Except.ok.inj (one.symm.trans h), alone⟩
    · cases h.symm.trans several
  · rintro (⟨rfl, member⟩ | ⟨r, rfl, alone⟩)
    · exact resolveId_of_mem member
    · obtain ⟨-, begins⟩ := alone.mem
      rcases resolveId_cases rules text with ⟨member, own⟩ | ⟨-, ⟨none, -⟩ | ⟨q, only, one⟩ |
        ⟨many, -⟩⟩
      · -- The rule with this very id begins with it as well, so it is the same.
        obtain ⟨q, here, same⟩ := Rule.mem_ids.1 member
        have := alone.eq here (begins_self same begins.1)
        rw [own, ← same, this]
      · exact absurd begins (none r alone.mem.1)
      · rw [one, alone.eq only.mem.1 only.mem.2]
      · rw [List.countP_eq_length_filter, alone_iff.1 alone] at many
        exact absurd many (by simp)

/-- A text that names no rule is not found, and one that begins several ids but is none is
ambiguous. -/
theorem resolveId_eq_error_iff {f : Failure} : resolveId rules text = .error f ↔
    f = .noSuchRule text ∧ (∀ r ∈ rules, ¬Names text r) ∨
    f = .ambiguous text (rules.countP (Begins text)) ∧ text ∉ Rule.ids rules ∧
      2 ≤ rules.countP (Begins text) := by
  have unnamed : (∀ r ∈ rules, ¬Names text r) ↔
      text ∉ Rule.ids rules ∧ ∀ r ∈ rules, ¬Begins text r := by
    simp [Names, Rule.mem_ids, not_or, forall_and]
  have few (none : ∀ r ∈ rules, ¬Begins text r) : ¬2 ≤ rules.countP (Begins text) := by
    rw [List.countP_eq_zero.2 (by simpa using none)]
    decide
  rw [unnamed]
  rcases resolveId_cases rules text with ⟨member, own⟩ | ⟨other, ⟨none, missing⟩ |
    ⟨r, alone, one⟩ | ⟨many, several⟩⟩
  · simp [own, member]
  · rw [missing]
    constructor
    · rintro ⟨⟩
      exact .inl ⟨rfl, other, none⟩
    · rintro (⟨rfl, -⟩ | ⟨-, -, many⟩)
      · rfl
      · exact absurd many (few none)
  · have single : rules.countP (Begins text) = 1 := by
      rw [List.countP_eq_length_filter, alone_iff.1 alone, List.length_singleton]
    rw [one]
    constructor
    · rintro ⟨⟩
    · rintro (⟨-, -, none⟩ | ⟨-, -, many⟩)
      · exact absurd alone.mem.2 (none r alone.mem.1)
      · omega
  · rw [several]
    constructor
    · rintro ⟨⟩
      exact .inr ⟨rfl, other, many⟩
    · rintro (⟨-, -, none⟩ | ⟨rfl, -⟩)
      · exact absurd many (few none)
      · rfl

/-- What a text means is the id of a rule. -/
theorem mem_of_resolveId {id : String} (h : resolveId rules text = .ok id) :
    id ∈ Rule.ids rules := by
  rcases resolveId_eq_ok_iff.1 h with ⟨rfl, member⟩ | ⟨r, rfl, alone⟩
  · exact member
  · exact Rule.mem_ids.2 ⟨r, alone.mem.1, rfl⟩

section Perform

variable {σ : Type} [Medium σ]

/-- An action makes a call: it tells what the call answers, and leaves what the call leaves. -/
def Makes (o : Opened σ) (a : Action) (c : Call) : Prop :=
  perform o a = (.ofResult (o.call c).1 (a.report (o.call c).2.store), (o.call c).2)

/-- Commands that are given a text call the store with an id. Editing needs something to change,
and deleting has to be confirmed. -/
structure Forwards (o : Opened σ) (text id : String) : Prop where
  edit : ∀ edit : Rule.Edit, edit.source ≠ none ∨ edit.target ≠ none →
    Makes o (.editRule text edit) (.update id edit)
  enable : ∀ enabled, Makes o (.enableRule text enabled) (.enable id enabled)
  delete : Makes o (.deleteRule text true) (.delete id)

theorem makes_of_errand {o : Opened σ} {a : Action} {c : Call} (h : a.errand o.store = .call c) :
    Makes o a c := by
  rw [Makes, perform_eq, h, Errand.run]

theorem Errand.on_of_resolveId {s : Store} {id : String} (h : resolveId s.rules text = .ok id)
    (k : String → Errand) : Errand.on s text k = k id := by
  rw [Errand.on, h]

/-- The store is called with the id that a text means. -/
theorem forwards_of_resolveId {o : Opened σ} {id : String}
    (h : resolveId o.store.rules text = .ok id) : Forwards o text id where
  edit edit given := by
    refine makes_of_errand ?_
    rw [Action.errand, if_neg fun idle => given.elim (· idle.1) (· idle.2)]
    exact Errand.on_of_resolveId h _
  enable enabled := makes_of_errand (Errand.on_of_resolveId h _)
  delete := makes_of_errand (Errand.on_of_resolveId h _)

/-- An action that makes a call names no rule, or one of the list. -/
theorem target_of_errand {s : Store} {a : Action} {c : Call} (h : a.errand s = .call c)
    (id : String) (target : c.target? = some id) : id ∈ Rule.ids s.rules := by
  have named {text : String} {k : String → Errand} (h : Errand.on s text k = .call c)
      (own : ∀ i, k i = .call c → c.target? = some i) : id ∈ Rule.ids s.rules := by
    unfold Errand.on at h
    split at h
    · cases h
    · rename_i i resolved
      obtain rfl : i = id := Option.some.inj ((own i h).symm.trans target)
      exact mem_of_resolveId resolved
  cases a with
  | editRule text edit =>
    simp only [Action.errand] at h
    split at h
    · cases h
    · refine named h fun i call => ?_
      cases call
      rfl
  | enableRule text enabled =>
    refine named h fun i call => ?_
    cases call
    rfl
  | deleteRule text sure =>
    refine named h fun i call => ?_
    split at call <;> cases call
    rfl
  | rate input clear =>
    cases clear <;> cases input <;> cases h <;> cases target
  | _ =>
    cases h
    try cases target

/-- What an action answers at once is no failure of the store. -/
theorem failure_of_errand {s : Store} {a : Action} {r : Outcome} (h : a.errand s = .tell r)
    (e : Store.Error) : r.failure ≠ some (.store e) := by
  have named {text : String} {k : String → Errand} (h : Errand.on s text k = .tell r)
      (own : ∀ i, k i = .tell r → r.failure ≠ some (.store e)) : r.failure ≠ some (.store e) := by
    unfold Errand.on at h
    split at h
    · rename_i f failed
      cases h
      rcases resolveId_eq_error_iff.1 failed with ⟨rfl, -⟩ | ⟨rfl, -⟩ <;> rintro ⟨⟩
    · exact own _ h
  cases a with
  | listRules =>
    cases h
    unfold listRules
    split <;> rintro ⟨⟩
  | editRule text edit =>
    simp only [Action.errand] at h
    split at h
    · cases h
      rintro ⟨⟩
    · exact named h fun i told => by cases told
  | enableRule text enabled => exact named h fun i told => by cases told
  | deleteRule text sure =>
    refine named h fun i told => ?_
    split at told <;> cases told
    rintro ⟨⟩
  | rate input clear =>
    cases clear <;> cases input <;> cases h
    rintro ⟨⟩
  | stats =>
    cases h
    rintro ⟨⟩
  | addRule source target => cases h

/-- No action fails since the store does not find a rule. -/
theorem perform_ne_notFound (o : Opened σ) (a : Action) (i : String) :
    (perform o a).1.failure ≠ some (.store (.ruleNotFound i)) := by
  rw [perform_eq]
  cases errand : a.errand o.store with
  | call c =>
    have found := Opened.call_ne_notFound (o := o) (target_of_errand errand) i
    simp only [Errand.run]
    cases answer : (o.call c).1 with
    | ok reply => rintro ⟨⟩
    | error e =>
      rintro ⟨⟩
      exact found answer
  | tell r => exact failure_of_errand errand _

/-- A text means its own id, or that of the only rule whose id begins with it. A text that names no
rule is not found, and any other is ambiguous. If a text means an id, then commands call the store
with this id. A call that names it finds its rule, and changes or removes the first rule that has it
and no other. So no action fails since the store does not find a rule. -/
theorem resolveId_acts (o : Opened σ) (text : String) :
    let rules := o.store.rules
    (∀ id, resolveId rules text = .ok id ↔
      id = text ∧ text ∈ Rule.ids rules ∨ ∃ r, r.id = id ∧ Alone rules text r) ∧
    (∀ f, resolveId rules text = .error f ↔
      f = .noSuchRule text ∧ (∀ r ∈ rules, ¬Names text r) ∨
      f = .ambiguous text (rules.countP (Begins text)) ∧ text ∉ Rule.ids rules ∧
        2 ≤ rules.countP (Begins text)) ∧
    (∀ id, resolveId rules text = .ok id → Forwards o text id ∧
      ∃ front r back, rules = front ++ r :: back ∧ r.id = id ∧ (∀ p ∈ front, p.id ≠ id) ∧
        ∀ c : Call, c.target? = some id →
          (∀ i, (o.call c).1 ≠ .error (.ruleNotFound i)) ∧ o.ActsOn front r back c) ∧
    ∀ (a : Action) (i : String), (perform o a).1.failure ≠ some (.store (.ruleNotFound i)) := by
  refine ⟨fun id => resolveId_eq_ok_iff, fun f => resolveId_eq_error_iff, fun id h => ?_,
    perform_ne_notFound o⟩
  have member := mem_of_resolveId h
  obtain ⟨front, r, back, list, first, rfl⟩ := Rule.exists_first member
  refine ⟨forwards_of_resolveId h, front, r, back, list, rfl, first, fun c target => ⟨?_, ?_⟩⟩
  · refine Opened.call_ne_notFound fun id named => ?_
    obtain rfl : r.id = id := Option.some.inj (target.symm.trans named)
    exact member
  · exact Opened.actsOn_first list first target

/-- One id begins another one, and a third one stands twice. -/
theorem resolveId_acts_begun :
    let rules : List Rule := ["12", "123", "ab", "ab"].map fun id => ⟨id, true, "a.b", "c"⟩
    let o : Opened Memory := ⟨{ Store.new (.working true) with rules }, .empty, .from 0⟩
    resolveId rules "12" = .ok "12" ∧ resolveId rules "a" = .error (.ambiguous "a" 2) ∧
      resolveId rules "" = .error (.noSuchRule "") ∧ resolveId rules "ab" = .ok "ab" ∧
      ∃ front r back, rules = front ++ r :: back ∧ r.id = "ab" ∧ (∀ p ∈ front, p.id ≠ "ab") ∧
        (perform o (.deleteRule "ab" true)).2.store.rules = front ++ back := by
  intro rules o
  obtain ⟨exact, -⟩ := resolveId_acts o "12"
  obtain ⟨-, several, -⟩ := resolveId_acts o "a"
  obtain ⟨-, none, -⟩ := resolveId_acts o ""
  obtain ⟨twice, -, acts, -⟩ := resolveId_acts o "ab"
  have means : resolveId rules "ab" = .ok "ab" := (twice "ab").2 (.inl ⟨rfl, by decide⟩)
  obtain ⟨forwards, front, r, back, list, own, first, call⟩ := acts "ab" means
  have deleted : o.Lists (.delete "ab") r (front ++ back) := (call (.delete "ab") rfl).2
  refine ⟨(exact "12").2 (.inl ⟨rfl, by decide⟩),
    (several _).2 (.inr ⟨by decide, by decide, by decide⟩), (none _).2 (.inl ⟨rfl, by decide⟩),
    means, front, r, back, list, own, first, ?_⟩
  rw [forwards.delete, deleted.store]

end Perform

/-! ## Printed ids -/

theorem toList_shortId (id : String) : (shortId id).toList = id.toList.take 8 :=
  String.toList_ofList

/-- The id of a rule begins with what is printed of it. -/
theorem begins_shortId (named : r.id ≠ "") : Begins (shortId r.id) r := by
  refine ⟨fun blank => named ?_, toList_shortId r.id ▸ List.take_prefix 8 r.id.toList⟩
  have none : r.id.toList.take 8 = [] := by rw [← toList_shortId, blank, String.toList_empty]
  simpa using none

/-- What is printed of an id may be the id of another rule, which it means then. If it is not, it
means the rule that it was printed for or is ambiguous. -/
theorem resolveId_shortId (named : ∀ q ∈ rules, q.id ≠ "") (distinct : (Rule.ids rules).Nodup)
    (member : r ∈ rules) :
    (∃ q ∈ rules, q.id ≠ r.id ∧ q.id = shortId r.id ∧
      resolveId rules (shortId r.id) = .ok q.id) ∨
    (∀ q ∈ rules, q.id = shortId r.id → q = r) ∧
      (resolveId rules (shortId r.id) = .ok r.id ∨
        resolveId rules (shortId r.id) =
          .error (.ambiguous (shortId r.id) (rules.countP (Begins (shortId r.id))))) := by
  have begins : Begins (shortId r.id) r := begins_shortId (named r member)
  rcases resolveId_cases rules (shortId r.id) with ⟨own, exact⟩ | ⟨other, meaning⟩
  · obtain ⟨q, here, same⟩ := Rule.mem_ids.1 own
    rw [exact]
    by_cases self : q.id = r.id
    · have only : ∀ p ∈ rules, p.id = shortId r.id → p = r := fun p hp printed =>
        List.inj_on_of_nodup_map distinct hp member (printed.trans (same.symm.trans self))
      exact .inr ⟨only, .inl (by rw [← same, self])⟩
    · exact .inl ⟨q, here, self, same, by rw [same]⟩
  · refine .inr ⟨fun q hq same => absurd (Rule.mem_ids.2 ⟨q, hq, same⟩) other, ?_⟩
    rcases meaning with ⟨none, -⟩ | ⟨q, alone, one⟩ | ⟨-, several⟩
    · exact absurd begins (none r member)
    · exact .inl (by rw [one, alone.eq member begins])
    · exact .inr several

/-- What is printed of two ids is equal, and what is printed of a third is the id of another
rule. -/
theorem resolveId_shortId_equal :
    let rules : List Rule := ["12345678", "12345678-9", "3f2a9c10-5d", "3f2a9c10-7e"].map fun id =>
      ⟨id, true, "a.b", "http://c.d/"⟩
    (∀ q ∈ rules, q.id ≠ "") ∧ (Rule.ids rules).Nodup ∧
      resolveId rules (shortId "3f2a9c10-5d") = .error (.ambiguous "3f2a9c10" 2) ∧
      ∃ q ∈ rules, q.id ≠ "12345678-9" ∧ resolveId rules (shortId "12345678-9") = .ok q.id := by
  intro rules
  have named : ∀ q ∈ rules, q.id ≠ "" := by decide
  have distinct : (Rule.ids rules).Nodup := by decide
  have third : (⟨"3f2a9c10-5d", true, "a.b", "http://c.d/"⟩ : Rule) ∈ rules := by decide
  have second : (⟨"12345678-9", true, "a.b", "http://c.d/"⟩ : Rule) ∈ rules := by decide
  refine ⟨named, distinct, ?_, ?_⟩
  · have other : ∀ q ∈ rules, q.id ≠ shortId "3f2a9c10-5d" := by decide
    rcases resolveId_shortId named distinct third with ⟨q, here, -, same, -⟩ | ⟨-, own | several⟩
    · exact absurd same (other q here)
    · exact absurd own (by decide)
    · exact several
  · rcases resolveId_shortId named distinct second with ⟨q, here, differ, -, means⟩ | ⟨only, -⟩
    · exact ⟨q, here, differ, means⟩
    · exact absurd (only ⟨"12345678", true, "a.b", "http://c.d/"⟩ (by decide) (by decide))
        (by decide)

/-- A printed id leads to another rule, one that has it as its whole id. -/
theorem exists_misled :
    let short : Rule := ⟨"12345678", true, "a.b", "http://c.d/"⟩
    let long : Rule := ⟨"12345678-9", true, "e.f", "http://g.h/"⟩
    (∀ q ∈ [short, long], q.id ≠ "") ∧ (Rule.ids [short, long]).Nodup ∧
      resolveId [short, long] (shortId long.id) = .ok short.id ∧ short.id ≠ long.id := by
  decide

end Command

end Reroute
