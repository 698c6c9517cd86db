import Mathlib.Data.List.Forall2
import Reroute.Command.Stats

/-!
# The breakdown of redirects

The breakdown has one row for each rule with redirects, the busiest first, and rules with equally
many redirects stay in the order of the list. There is only one such order, so that the rows are
known from the list, the counts and the rate. Each row shows the source of its rule, the count, and
what this count saved.

## Main definitions

* `Command.Ranked` — items in falling order of a key, those of one key as they were.
* `Command.countOf` — the redirects of a rule, `Command.rankedRows` — the rows of rules.
* `Command.Columns` — the texts in a row, `Command.ShowsRule` — those in the row of a rule.

## Main results

* `Command.ranked_mergeSort`, `Command.Ranked.unique` — sorting yields this order, and no other
  list has it.
* `Command.breakdown_eq`, `Command.breakdownRows_map` — the rules of the breakdown, and their rows.
* `Command.columns_breakdownRow` — what a row shows.
* `Command.statsLines_ranked` — what is shown below the totals.
-/

namespace Reroute.Command

/-! ## Stable order -/

section Ranked

variable {α : Type} {key : α → UInt64} {l as bs : List α}

/-- The items of a list in falling order of a key, those of one key in the order of the list. -/
structure Ranked (key : α → UInt64) (l shown : List α) : Prop where
  perm : shown.Perm l
  falling : shown.Pairwise fun a b => key b ≤ key a
  stable : ∀ n, shown.filter (key · = n) = l.filter (key · = n)

theorem falling_trans (a b c : α) (hab : decide (key b ≤ key a) = true)
    (hbc : decide (key c ≤ key b) = true) : decide (key c ≤ key a) = true :=
  decide_eq_true (UInt64.le_trans (of_decide_eq_true hbc) (of_decide_eq_true hab))

theorem falling_total (a b : α) : (decide (key b ≤ key a) || decide (key a ≤ key b)) = true := by
  simpa using UInt64.le_total (key b) (key a)

/-- Items of one key are not moved past each other. -/
theorem filter_mergeSort (key : α → UInt64) (l : List α) (n : UInt64) :
    (l.mergeSort fun a b => key b ≤ key a).filter (key · = n) = l.filter (key · = n) := by
  have level : (l.filter (key · = n)).Pairwise fun a b => decide (key b ≤ key a) = true := by
    refine List.pairwise_iff_forall_sublist.2 fun sub => ?_
    have own := sub.subset
    simp only [List.cons_subset, List.mem_filter, decide_eq_true_eq] at own
    simp [own.1.2, own.2.1.2]
  have kept := (List.sublist_mergeSort falling_trans falling_total level List.filter_sublist).filter
    (key · = n)
  simp only [List.filter_filter, Bool.and_self] at kept
  exact (kept.eq_of_length ((List.mergeSort_perm ..).filter _).length_eq.symm).symm

theorem ranked_mergeSort (key : α → UInt64) (l : List α) :
    Ranked key l (l.mergeSort fun a b => key b ≤ key a) where
  perm := List.mergeSort_perm ..
  falling := (List.pairwise_mergeSort falling_trans falling_total l).imp of_decide_eq_true
  stable := filter_mergeSort key l

/-- In falling order the first item has a key that is not below the others. -/
theorem key_le_of_filter {a b : α} (falling : (b :: bs).Pairwise fun a b => key b ≤ key a)
    (same : ∀ n, (a :: as).filter (key · = n) = (b :: bs).filter (key · = n)) : key a ≤ key b := by
  have member : a ∈ (b :: bs).filter (key · = key a) := by
    rw [← same]
    simp
  rcases List.mem_cons.1 (List.mem_filter.1 member).1 with rfl | later
  · exact UInt64.le_refl _
  · exact (List.pairwise_cons.1 falling).1 a later

/-- A falling order is known from the items of each key. -/
theorem eq_of_falling (ha : as.Pairwise fun a b => key b ≤ key a)
    (hb : bs.Pairwise fun a b => key b ≤ key a)
    (same : ∀ n, as.filter (key · = n) = bs.filter (key · = n)) : as = bs := by
  induction as generalizing bs with
  | nil =>
    cases bs with
    | nil => rfl
    | cons b bs => simpa using same (key b)
  | cons a as ih =>
    cases bs with
    | nil => simpa using same (key a)
    | cons b bs =>
      have level : key a = key b :=
        UInt64.le_antisymm (key_le_of_filter hb same) (key_le_of_filter ha fun n => (same n).symm)
      obtain ⟨rfl, -⟩ : a = b ∧ _ := by simpa [level] using same (key a)
      have rest : as = bs := by
        refine ih (List.pairwise_cons.1 ha).2 (List.pairwise_cons.1 hb).2 fun n => ?_
        have own := same n
        simp only [List.filter_cons] at own
        split at own
        · exact (List.cons.inj own).2
        · exact own
      rw [rest]

theorem Ranked.unique (ha : Ranked key l as) (hb : Ranked key l bs) : as = bs :=
  eq_of_falling ha.falling hb.falling fun n => (ha.stable n).trans (hb.stable n).symm

end Ranked

/-! ## The rules of the breakdown -/

/-- The redirects of a rule. -/
def countOf (s : Store) (r : Rule) : UInt64 := s.metrics.countFor r.id

/-- The breakdown has the rules with redirects, each with what these saved. -/
theorem breakdown_eq (s : Store) :
    breakdown s = ((s.rules.filter (0 < countOf s ·)).mergeSort fun a b =>
      countOf s b ≤ countOf s a).map fun r => (r, .ofRedirects (countOf s r) s.settings) := by
  unfold breakdown
  rw [List.filter_map]
  exact (List.map_mergeSort (f := fun r : Rule => (r, s.ruleSavings r.id)) fun _ _ _ _ => rfl).symm

/-! ## Rows -/

/-- What stands between two columns. -/
def Gap (gap : String) : Prop := gap ≠ "" ∧ ∀ c ∈ gap.toList, c = ' '

/-- Texts that stand in a row, each as a whole, with blanks between them and nothing else. -/
inductive Columns : List String → String → Prop where
  | last (text : String) : Columns [text] text
  | next (text : String) {gap row : String} {texts : List String} (blank : Gap gap)
    (rest : Columns texts row) : Columns (text :: texts) (text ++ gap ++ row)

/-- A row shows a rule by its source, its redirects, and the labels of the time and of the money
that these saved at the rate of the store. -/
def ShowsRule (s : Store) (r : Rule) (row : String) : Prop :=
  let minutes := Savings.minutesSaved (countOf s r)
  ∃ branch ∈ ["├──", "└──"],
    Columns [branch, r.source, toString (countOf s r), Savings.durationText minutes,
      Savings.moneyText (Savings.moneySaved minutes s.settings.hourlyRate)] row

theorem gap_space : Gap " " := ⟨by simp, by simp⟩

theorem Gap.spaces {gap : String} (h : Gap gap) (w : Nat) (s : String) :
    Gap (Text.spaces w s ++ gap) ∧ Gap (gap ++ Text.spaces w s) := by
  obtain ⟨some, blank⟩ := h
  refine ⟨⟨by simp [some], fun c hc => ?_⟩, by simp [some], fun c hc => ?_⟩
  · rw [String.toList_append, List.mem_append] at hc
    exact hc.elim Text.eq_of_mem_spaces (blank c)
  · rw [String.toList_append, List.mem_append] at hc
    exact hc.elim (blank c) Text.eq_of_mem_spaces

/-- Filling up adds blanks between the columns, but changes none of them. -/
theorem columns_breakdownRow (branch : String) (r : Rule) (v : Savings) :
    Columns [branch, r.source, toString v.redirects, v.durationLabel, v.moneyLabel]
      (breakdownRow branch r v) := by
  have before (w : Nat) (s : String) := (gap_space.spaces w s).2
  have around := ((before 6 (toString v.redirects)).spaces 28 r.source).1
  have row := Columns.next branch gap_space <| .next r.source around <|
    .next (toString v.redirects) (before 9 v.durationLabel) <|
    .next v.durationLabel (before 9 v.moneyLabel) <| .last v.moneyLabel
  simpa only [breakdownRow, Text.padEnd, Text.padStart, String.append_assoc] using row

/-- The rows of rules with their counts and with what is saved by these; the last one closes the
branch. -/
def rankedRows (s : Store) (shown : List Rule) : List String :=
  shown.mapIdx fun i r => breakdownRow (if i + 1 = shown.length then "└──" else "├──") r
    (.ofRedirects (countOf s r) s.settings)

theorem breakdownRows_map (s : Store) (shown : List Rule) :
    breakdownRows (shown.map fun r => (r, .ofRedirects (countOf s r) s.settings)) =
      rankedRows s shown := by
  induction shown with
  | nil => rfl
  | cons r shown ih =>
    cases shown with
    | nil => rfl
    | cons q shown =>
      have rest : breakdownRows ((r :: q :: shown).map fun r =>
          (r, .ofRedirects (countOf s r) s.settings)) =
            breakdownRow "├──" r (.ofRedirects (countOf s r) s.settings) ::
              breakdownRows ((q :: shown).map fun r =>
                (r, .ofRedirects (countOf s r) s.settings)) := rfl
      rw [rest, ih]
      simp only [rankedRows, List.mapIdx_cons, List.length_cons, Nat.add_right_cancel_iff,
        Nat.zero_ne_add_one, if_false]

/-- Each row shows its own rule. -/
theorem showsRule_rankedRows (s : Store) (shown : List Rule) :
    List.Forall₂ (ShowsRule s) shown (rankedRows s shown) := by
  refine List.forall₂_iff_get.2 ⟨List.length_mapIdx.symm, fun i hi hi' => ?_⟩
  simp only [rankedRows, List.get_eq_getElem, List.getElem_mapIdx]
  refine ⟨_, ?_,
    columns_breakdownRow _ shown[i] (.ofRedirects (countOf s shown[i]) s.settings)⟩
  split <;> simp

/-- Only the last row begins with the sign that closes the branch. -/
theorem closes_iff {s : Store} {shown : List Rule} {i : Nat}
    (h : i < (rankedRows s shown).length) :
    (∃ rest, (rankedRows s shown)[i] = "└──" ++ rest) ↔ i + 1 = (rankedRows s shown).length := by
  have length : (rankedRows s shown).length = shown.length := List.length_mapIdx
  obtain ⟨rest, row⟩ : ∃ rest, (rankedRows s shown)[i] =
      (if i + 1 = shown.length then "└──" else "├──") ++ rest := by
    simp only [rankedRows, List.getElem_mapIdx, breakdownRow, String.append_assoc]
    exact ⟨_, rfl⟩
  rw [length, row]
  split
  · rename_i last
    exact iff_of_true ⟨rest, rfl⟩ last
  · rename_i more
    refine iff_of_false ?_ more
    rintro ⟨other, same⟩
    have chars := congrArg String.toList same
    simp at chars

/-! ## Lines -/

/-- The rows stand below the totals, with a heading if there are any. -/
theorem drop_statsLines (s : Store) :
    (statsLines s).drop 5 =
      let rows := rankedRows s ((s.rules.filter (0 < countOf s ·)).mergeSort fun a b =>
        countOf s b ≤ countOf s a)
      (if rows = [] then [] else ["", "By rule:"]) ++ rows := by
  have lines : (statsLines s).drop 5 = (if (breakdownRows (breakdown s)).isEmpty then []
      else ["", "By rule:"]) ++ breakdownRows (breakdown s) := rfl
  rw [lines, breakdown_eq, breakdownRows_map]
  simp only [List.isEmpty_iff]

/-- There is a heading if and only if there are rows. -/
theorem heading_mem_iff (s : Store) :
    "By rule:" ∈ statsLines s ↔ ∃ r ∈ s.rules, 0 < countOf s r := by
  have begins {text : String} (h : text.toList.head? ≠ some 'B') : "By rule:" ≠ text :=
    fun same => h (same ▸ rfl)
  have totals : "By rule:" ∉ (statsLines s).take 5 := by
    simp only [statsLines, List.cons_append, List.take_succ_cons, List.take_zero, List.mem_cons,
      List.not_mem_nil, or_false, not_or]
    refine ⟨begins ?_, begins ?_, begins ?_, begins ?_, begins ?_⟩ <;> simp
  have sorted := (ranked_mergeSort (countOf s) (s.rules.filter (0 < countOf s ·))).perm
  rw [← List.take_append_drop 5 (statsLines s), List.mem_append, or_iff_right totals,
    drop_statsLines]
  generalize (s.rules.filter (0 < countOf s ·)).mergeSort _ = shown at *
  have rows : rankedRows s shown = [] ↔ shown = [] := List.mapIdx_eq_nil_iff
  have below : "By rule:" ∈ (if rankedRows s shown = [] then [] else ["", "By rule:"]) ++
      rankedRows s shown ↔ shown ≠ [] := by
    by_cases none : shown = []
    · simp [none, rankedRows]
    · simp [rows, none]
  rw [below, ne_eq, ← List.isEmpty_iff, sorted.isEmpty_eq]
  simp only [List.isEmpty_iff, List.filter_eq_nil_iff, decide_eq_true_eq, Classical.not_forall,
    Classical.not_not, exists_prop]

/-- Below the totals there is one row for each rule with redirects, in falling order of their
counts, and equal ones in the order of the list. The rows have a heading unless there are none, each
shows the source and the count of its rule and what is saved by this count, and the last one alone
closes the branch. -/
theorem statsLines_ranked (s : Store) :
    ∃ shown : List Rule,
      (∀ rs, Ranked (countOf s) (s.rules.filter (0 < countOf s ·)) rs ↔ rs = shown) ∧
      let rows := rankedRows s shown
      List.Forall₂ (ShowsRule s) shown rows ∧
      (statsLines s).drop 5 = (if rows = [] then [] else ["", "By rule:"]) ++ rows ∧
      ("By rule:" ∈ statsLines s ↔ ∃ r ∈ s.rules, 0 < countOf s r) ∧
      ∀ (i : Nat) (h : i < rows.length),
        (∃ rest, rows[i] = "└──" ++ rest) ↔ i + 1 = rows.length := by
  have ranked := ranked_mergeSort (countOf s) (s.rules.filter (0 < countOf s ·))
  exact ⟨_, fun rs => ⟨fun other => other.unique ranked, fun same => same ▸ ranked⟩,
    showsRule_rankedRows s _, drop_statsLines s, heading_mem_iff s, fun _ => closes_iff⟩

end Reroute.Command
