import Reroute.Command.Rate
import Reroute.Text.Pad

/-!
# The stats command

## Main definitions

* `Command.breakdown` — the rules that were used, the busiest first.
* `Command.statsLines` — totals and breakdown.
-/

namespace Reroute.Command

/-- The rules with redirects and what these saved, the busiest first; equal ones in the order of
the list. -/
def breakdown (s : Store) : List (Rule × Savings) :=
  ((s.rules.map fun r => (r, s.ruleSavings r.id)).filter (0 < ·.2.redirects)).mergeSort
    fun a b => b.2.redirects ≤ a.2.redirects

/-- A row of the breakdown. -/
def breakdownRow (branch : String) (r : Rule) (v : Savings) : String :=
  branch ++ " " ++ Text.padEnd 28 r.source ++ " " ++ Text.padStart 6 (toString v.redirects) ++ " "
    ++ Text.padStart 9 v.durationLabel ++ " " ++ Text.padStart 9 v.moneyLabel

/-- The rows of the breakdown; the last one closes the branch. -/
def breakdownRows : List (Rule × Savings) → List String
  | [] => []
  | [(r, v)] => [breakdownRow "└──" r v]
  | (r, v) :: rows => breakdownRow "├──" r v :: breakdownRows rows

/-- The rate behind the saved money. -/
def rateNote : Option Double → String
  | some x => " (at " ++ amountText x ++ "/h)"
  | none => " (no hourly rate set)"

/-- Totals and breakdown. -/
def statsLines (s : Store) : List String :=
  let total := s.savings
  let rows := breakdownRows (breakdown s)
  ["",
    "Redirects:   " ++ toString total.redirects,
    "Time saved:  " ++ total.durationLabel,
    "Money saved: " ++ total.moneyLabel ++ rateNote s.settings.hourlyRate,
    "Estimate:    " ++ String.ofList Savings.minutesPerRedirect.positional
      ++ " minutes per redirect"]
    ++ (if rows.isEmpty then [] else ["", "By rule:"]) ++ rows

/-- Shows totals and breakdown. -/
def stats (s : Store) : Outcome := .printing ((statsLines s).map .out)

end Reroute.Command
