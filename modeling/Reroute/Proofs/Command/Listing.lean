import Reroute.Proofs.Command.Naming

/-!
# Faults that are shown

The faults of a list are kept with the ids of their rules, and a row looks up its fault by the id of
its rule. So it tells the first fault that any rule of this id has. This is the fault of its own
rule as long as rules of one id have the same fault, for instance if ids differ. A list that was
loaded may have several rules of one id, and then a row may tell the fault of another rule.

## Main definitions

* `Rule.faultOf?` — the first fault of the rules that have an id.
* `Rule.Uniform` — rules of one id have the same fault.
* `Command.table`, `Command.switchedLines` — what is printed if each rule is given a fault or none.

## Main results

* `Rule.uniform_iff` — when the first fault of every id is the fault of all its rules.
* `Command.table_inj` — the faults can be read off a table.
* `Command.listRules_of_nodup` — if ids differ, each row tells the fault of its rule.
* `Command.faults_shown_iff` — when the faults that are shown are those of the rules that they are
  shown for, `Command.exists_misplaced_fault` — not always.
-/

namespace Reroute

namespace Rule

/-! ## Faults by id -/

/-- The first fault of the rules that have an id. -/
def faultOf? (rs : List Rule) (id : String) : Option Error :=
  (rs.filter (·.id = id)).findSome? issue?

/-- Rules of one id have the same fault. -/
def Uniform (rs : List Rule) : Prop := ∀ p ∈ rs, ∀ q ∈ rs, p.id = q.id → p.issue? = q.issue?

variable {front back rs : List Rule} {r : Rule} {id : String}

/-- A rule has the fault for which its draft is refused. -/
theorem issue?_eq_some_iff {e : Error} (ids : Supply) :
    r.issue? = some e ↔ (r.toDraft.validate ids).1 = .error e := by
  unfold issue? Draft.validate
  cases r.toDraft.fields <;> simp

theorem uniform_of_nodup (distinct : (ids rs).Nodup) : Uniform rs := by
  intro p hp q hq same
  rw [List.inj_on_of_nodup_map distinct hp hq same]

/-- What is listed for an id is the first fault of its rules. -/
theorem lookup_issues (rs : List Rule) (id : String) : (issues rs).lookup id = faultOf? rs id := by
  unfold issues faultOf?
  induction rs with
  | nil => rfl
  | cons r rs ih =>
    by_cases own : id = r.id
    · subst own
      cases fault : r.issue? <;> simp [fault, ih]
    · have other : (id == r.id) = false := beq_false_of_ne own
      cases fault : r.issue? <;> simp [List.lookup_cons, other, Ne.symm own, fault, ih]

/-- If rules of an id have the same fault, it is found. -/
theorem faultOf?_of_forall (member : r ∈ rs)
    (same : ∀ q ∈ rs, q.id = r.id → q.issue? = r.issue?) : faultOf? rs r.id = r.issue? := by
  have own : ∀ q ∈ rs.filter (·.id = r.id), q.issue? = r.issue? := fun q hq =>
    same q (List.mem_filter.1 hq).1 (by simpa using (List.mem_filter.1 hq).2)
  have here : r ∈ rs.filter (·.id = r.id) := List.mem_filter.2 ⟨member, by simp⟩
  unfold faultOf?
  cases fault : r.issue? with
  | none => exact List.findSome?_eq_none_iff.2 fun q hq => (own q hq).trans fault
  | some e =>
    cases list : rs.filter (·.id = r.id) with
    | nil => rw [list] at here; cases here
    | cons q qs =>
      have first : q.issue? = some e := (own q (list ▸ List.mem_cons_self)).trans fault
      rw [List.findSome?_cons, first]

/-- The first fault of every id is the fault of each of its rules if and only if rules of one id
have the same fault. -/
theorem uniform_iff : Uniform rs ↔ ∀ r ∈ rs, faultOf? rs r.id = r.issue? := by
  constructor
  · intro uniform r member
    exact faultOf?_of_forall member fun q hq same => uniform q hq r member same
  · intro told p hp q hq same
    rw [← told p hp, ← told q hq, same]

/-- The fault that is found for the first rule of an id is its own, unless it has none and a later
rule of the id has one. -/
theorem faultOf?_first_iff (first : ∀ p ∈ front, p.id ≠ r.id) :
    faultOf? (front ++ r :: back) r.id = r.issue? ↔
      (r.issue? = none → ∀ q ∈ back, q.id = r.id → q.issue? = none) := by
  have before : front.filter (·.id = r.id) = [] := by simpa [List.filter_eq_nil_iff] using first
  have found : faultOf? (front ++ r :: back) r.id =
      (r :: back.filter (·.id = r.id)).findSome? issue? := by
    simp [faultOf?, before]
  rw [found]
  cases fault : r.issue? with
  | none => simp [fault, List.findSome?_eq_none_iff]
  | some e => simp [fault]

end Rule

namespace Command

/-! ## Texts -/

/-- The line under the row of a rule that tells its fault. -/
def faultLine (e : Rule.Error) : Line := .out ("└── " ++ e.message)

theorem refusal_message_injective : Function.Injective Refusal.message := by
  intro r q same
  cases r <;> cases q <;> first | rfl | exact absurd same (by decide)

/-- Different faults are told in different words. -/
theorem message_injective : Function.Injective Rule.Error.message := by
  intro e f same
  have chars : e.message.toList = f.message.toList := congrArg String.toList same
  match e, f with
  | .source r, .source q | .target r, .target q =>
    have messages : r.message = q.message := by simpa [Rule.Error.message] using same
    rw [refusal_message_injective messages]
  | .source r, .target q | .target r, .source q => simp [Rule.Error.message] at chars

theorem length_message_le (e : Rule.Error) : e.message.length ≤ 80 := by
  have words (r : Refusal) : r.message.length ≤ 72 := by cases r <;> decide
  have field : "source: ".length = 8 ∧ "target: ".length = 8 := ⟨rfl, rfl⟩
  match e with
  | .source r | .target r =>
    have := words r
    simp only [Rule.Error.message, String.length_append]
    omega

/-- A row is longer than what is said of a fault. -/
theorem ruleRow_ne_faultLine (s : Store) (r : Rule) (e : Rule.Error) :
    .out (ruleRow s r) ≠ faultLine e := by
  intro same
  have lengths : (ruleRow s r).length = 4 + e.message.length := by
    rw [Line.out.inj same, String.length_append]
    rfl
  have blank : " ".length = 1 := rfl
  have blanks : "  ".length = 2 := rfl
  have short := length_message_le e
  simp only [ruleRow, tableRow, String.length_append, Text.length_padEnd,
    Text.length_padStart] at lengths
  omega

/-! ## The table -/

/-- The row of a rule, and under it its fault if it is given one. -/
def rowLines (s : Store) (fault? : Rule → Option Rule.Error) (r : Rule) : List Line :=
  .out (ruleRow s r) :: ((fault? r).map faultLine).toList

/-- The table of rules, each with the fault that it is given. -/
def table (s : Store) (fault? : Rule → Option Rule.Error) : Outcome :=
  if s.rules.isEmpty then
    .printing [.out
      "No redirect rules yet. Add one with 'detour rules add <source> <target>'."]
  else
    .printing <|
      [.out "", .out (tableRow "ID" "ON" "SOURCE" "TARGET" "REDIRECTS")]
        ++ s.rules.flatMap (rowLines s fault?) ++ [.out ""]

variable {s : Store} {f g : Rule → Option Rule.Error}

/-- What follows the fault of a rule, or its row if it has none, is the end or a row. -/
theorem flatMap_rowLines_ne (rs : List Rule) (e : Rule.Error) (rest : List Line) :
    rs.flatMap (rowLines s f) ≠ faultLine e :: rest := by
  cases rs with
  | nil => nofun
  | cons r rs => exact fun same => ruleRow_ne_faultLine s r e (List.cons.inj same).1

/-- The faults can be read off the lines of a table. -/
theorem flatMap_rowLines_inj {rs : List Rule} :
    rs.flatMap (rowLines s f) = rs.flatMap (rowLines s g) ↔ ∀ r ∈ rs, f r = g r := by
  constructor
  · intro same
    induction rs with
    | nil => nofun
    | cons r rs ih =>
      have under : ((f r).map faultLine).toList ++ rs.flatMap (rowLines s f) =
          ((g r).map faultLine).toList ++ rs.flatMap (rowLines s g) := (List.cons.inj same).2
      rw [List.forall_mem_cons]
      match hf : f r, hg : g r with
      | none, none => exact ⟨rfl, ih (by simpa [hf, hg] using under)⟩
      | some e, some e' =>
        simp only [hf, hg, Option.map_some, Option.toList_some, List.singleton_append,
          List.cons.injEq] at under
        have same : e.message = e'.message := by simpa [faultLine] using under.1
        exact ⟨congrArg some (message_injective same), ih under.2⟩
      | none, some e =>
        rw [hf, hg] at under
        exact absurd under (flatMap_rowLines_ne rs e _)
      | some e, none =>
        rw [hf, hg] at under
        exact absurd under.symm (flatMap_rowLines_ne rs e _)
  · intro same
    exact List.flatMap_congr fun r member => by rw [rowLines, rowLines, same r member]

/-- Tables are equal if and only if each rule is given the same fault. -/
theorem table_inj : table s f = table s g ↔ ∀ r ∈ s.rules, f r = g r := by
  rw [← flatMap_rowLines_inj (s := s)]
  unfold table
  split
  · rename_i none
    simp [List.isEmpty_iff.1 none]
  · simp only [Outcome.printing, Outcome.mk.injEq, and_true, List.append_cancel_left_eq,
      List.append_cancel_right_eq]

/-- Each row tells the first fault of the id of its rule. -/
theorem listRules_eq (s : Store) : listRules s = table s fun r => Rule.faultOf? s.rules r.id := by
  have lines : ruleLines s = rowLines s fun r => Rule.faultOf? s.rules r.id := by
    funext r
    have told : issueOf? s r.id = Rule.faultOf? s.rules r.id := Rule.lookup_issues s.rules r.id
    rw [ruleLines, rowLines, told]
    cases Rule.faultOf? s.rules r.id <;> rfl
  rw [listRules, table, lines]

/-- Each row tells the fault of its rule if and only if rules of one id have the same fault. -/
theorem listRules_eq_iff (s : Store) :
    listRules s = table s Rule.issue? ↔ Rule.Uniform s.rules := by
  rw [listRules_eq, table_inj, Rule.uniform_iff]

/-- So it does if ids differ. -/
theorem listRules_of_nodup (distinct : (Rule.ids s.rules).Nodup) :
    listRules s = table s Rule.issue? :=
  (listRules_eq_iff s).2 (Rule.uniform_of_nodup distinct)

/-! ## Switching -/

/-- What is said of a rule that was switched on or off, and of its fault if it is given one. -/
def switchedLines (r : Rule) (fault : Option Rule.Error) : List Line :=
  .out ("Rule " ++ shortId r.id ++ " " ++ (if r.enabled then "enabled" else "disabled") ++ ".") ::
    (fault.map fun e =>
      .warning ("warning: this rule does not validate (" ++ e.message ++ ")")).toList

variable {σ : Type} [Medium σ] {o : Opened σ} {text : String} {front back : List Rule} {r : Rule}

/-- A command that switches a rule changes the first rule of the id that the text means. If this is
saved, it tells the first fault of that id. -/
theorem enableRule_eq (list : o.store.rules = front ++ r :: back)
    (first : ∀ p ∈ front, p.id ≠ r.id) (means : resolveId o.store.rules text = .ok r.id)
    (enabled : Bool) :
    let q : Rule := { r with enabled }
    let x := enableRule o text enabled
    x.2.store = { o.store with rules := front ++ q :: back } ∧
      (x.1 = .printing (switchedLines q (Rule.faultOf? (front ++ q :: back) q.id)) ∨
        ∃ e, x.1 = .failing (.store (.notSaved e))) := by
  intro q x
  have lists : o.Lists (.enable r.id enabled) q (front ++ q :: back) :=
    Opened.actsOn_first (c := .enable r.id enabled) list first rfl
  have made : x = _ := (forwards_of_resolveId means).enable enabled
  rw [made]
  refine ⟨lists.store, ?_⟩
  rcases lists.answer with saved | ⟨e, failed⟩
  · have told : issueOf? (o.call (.enable r.id enabled)).2.store q.id =
        Rule.faultOf? (front ++ q :: back) q.id := by
      rw [lists.store]
      exact Rule.lookup_issues _ _
    refine .inl ?_
    rw [saved]
    simp only [Outcome.ofResult, Action.report, told, switchedLines]
    cases Rule.faultOf? (front ++ q :: back) q.id <;> rfl
  · exact .inr ⟨e, by rw [failed]; rfl⟩

/-- The fault of a rule can be read off what is said when it is switched. -/
theorem switchedLines_inj {a b : Option Rule.Error} :
    switchedLines r a = switchedLines r b ↔ a = b := by
  refine ⟨fun same => ?_, fun same => same ▸ rfl⟩
  have under := (List.cons.inj same).2
  match a, b with
  | none, none => rfl
  | some e, some f =>
    have texts : e.message = f.message := by simpa using under
    rw [message_injective texts]
  | none, some _ | some _, none => cases under

/-! ## What is shown -/

/-- The table has a row for each rule in their order, and tells under it the first fault of the id
of this rule. It tells the fault of each rule itself if and only if rules of one id have the same
fault. A command that switches a rule on or off and is not refused warns of the first fault of its
id too. This is the fault of the rule that was switched, unless that one has none while a later rule
of its id has one. -/
theorem faults_shown_iff (o : Opened σ) :
    (∀ (r : Rule) (ids : Supply) (e : Rule.Error),
      r.issue? = some e ↔ (r.toDraft.validate ids).1 = .error e) ∧
    listRules o.store = table o.store (fun r => Rule.faultOf? o.store.rules r.id) ∧
    (listRules o.store = table o.store Rule.issue? ↔ Rule.Uniform o.store.rules) ∧
    ∀ (text : String) (enabled : Bool),
      (∃ f, resolveId o.store.rules text = .error f ∧
        enableRule o text enabled = (.failing f, o)) ∨
      ∃ front r back, o.store.rules = front ++ r :: back ∧ (∀ p ∈ front, p.id ≠ r.id) ∧
        resolveId o.store.rules text = .ok r.id ∧
        let q : Rule := { r with enabled }
        let rules := front ++ q :: back
        let x := enableRule o text enabled
        x.2.store = { o.store with rules } ∧
          ((∃ e, x.1 = .failing (.store (.notSaved e))) ∨
            x.1 = .printing (switchedLines q (Rule.faultOf? rules q.id)) ∧
              (x.1 = .printing (switchedLines q q.issue?) ↔
                (q.issue? = none → ∀ t ∈ back, t.id = q.id → t.issue? = none))) := by
  refine ⟨fun r ids e => Rule.issue?_eq_some_iff ids, listRules_eq o.store,
    listRules_eq_iff o.store, fun text enabled => ?_⟩
  cases means : resolveId o.store.rules text with
  | error f => exact .inl ⟨f, rfl, by rw [enableRule, means]⟩
  | ok id =>
    obtain ⟨front, r, back, list, first, rfl⟩ := Rule.exists_first (mem_of_resolveId means)
    obtain ⟨store, saved | failed⟩ := enableRule_eq list first means enabled
    · refine .inr ⟨front, r, back, list, first, rfl, store, .inr ⟨saved, ?_⟩⟩
      rw [saved, ← Rule.faultOf?_first_iff (r := { r with enabled }) first]
      simp only [Outcome.printing, Outcome.mk.injEq, and_true, switchedLines_inj]
    · exact .inr ⟨front, r, back, list, first, rfl, store, .inl failed⟩

/-- Two rules of one id are loaded, and the second one is out of order. Its fault is shown under the
row of the first one, which is in order, and switching that one warns of it. -/
theorem exists_misplaced_fault :
    let stored : Json := .array [
      .object [("id", .string "a"), ("source_hostname", .string "a.b"),
        ("target_url", .string "http://c.d/")],
      .object [("id", .string "a"), ("source_hostname", .string "x"),
        ("target_url", .string "http://c.d/")]]
    let memory : Memory := ⟨[(⟨.sync, Store.rulesKey⟩, stored)], .empty⟩
    let o := Opened.openOn (.working true) memory (.from 0)
    let r : Rule := ⟨"a", false, "a.b", "http://c.d/"⟩
    let e : Rule.Error := .source .invalidHostname
    o.store.rules.head? = some r ∧ r.issue? = none ∧
      ruleLines o.store r = [.out (ruleRow o.store r), faultLine e] ∧
      listRules o.store ≠ table o.store Rule.issue? ∧
      (enableRule o "a" true).1 =
        .printing (switchedLines { r with enabled := true } (some e)) := by
  intro stored memory o r e
  let q : Rule := ⟨"a", false, "x", "http://c.d/"⟩
  have loaded : o.store.rules = [r, q] := by decide +kernel
  have sound : r.issue? = none := by
    have url : Url.ofSource "c.d" = "http://c.d/" := by decide
    have source : Hostname.IsName "a.b".toList := ⟨by decide +kernel, by decide +kernel⟩
    have host : Hostname.IsName "c.d".toList := ⟨by decide +kernel, by decide +kernel⟩
    have own := Rule.issue?_ofSource source host (by decide +kernel) (by decide +kernel)
      (by decide) "a" false
    rwa [url] at own
  have fault : q.issue? = some e := by decide +kernel
  have told : Rule.faultOf? o.store.rules r.id = some e := by
    simp [loaded, Rule.faultOf?, sound, fault, r, q]
  refine ⟨by rw [loaded]; rfl, sound, ?_, ?_, ?_⟩
  · have listed : issueOf? o.store r.id = some e := (Rule.lookup_issues _ _).trans told
    rw [ruleLines, listed]
    rfl
  · rw [listRules_eq]
    intro same
    have own := table_inj.1 same r (loaded ▸ List.mem_cons_self)
    rw [told, sound] at own
    cases own
  · have means : resolveId o.store.rules "a" = .ok r.id := by rw [loaded]; decide
    have saved : (enableRule o "a" true).1.failure = none := by decide +kernel
    have list : o.store.rules = [] ++ r :: [q] := loaded
    obtain ⟨-, switched | ⟨f, failed⟩⟩ := enableRule_eq list nofun means true
    · have same : Rule.issues ([] ++ { r with enabled := true } :: [q]) = Rule.issues [r, q] :=
        Rule.issues_replace rfl (r.issue?_enabled true)
      rw [loaded, ← Rule.lookup_issues] at told
      rw [switched, ← Rule.lookup_issues, same]
      exact congrArg (fun x => Outcome.printing (switchedLines { r with enabled := true } x)) told
    · rw [failed] at saved
      cases saved

end Command

end Reroute
