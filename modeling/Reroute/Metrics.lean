import Reroute.Json.Basic

/-!
# Redirect counts

How often redirects happened, in total and for each rule. The counts name rules by their ids only:
those of deleted rules stay.

## Main definitions

* `Metrics` — the counts, `Metrics.countFor` — the count of one rule.
* `Metrics.normalize` — the counts of any stored value, `Metrics.decode?` — of a well-formed one.
* `Metrics.encode` — the stored value of counts.
-/

namespace Reroute

/-- Redirect counts, those of single rules in the order of their ids. -/
structure Metrics where
  total : UInt64
  perRule : List (String × UInt64)
  deriving DecidableEq

namespace Metrics

def empty : Metrics := ⟨0, []⟩

/-- The count of a rule, zero if there is none. -/
def countFor (m : Metrics) (id : String) : UInt64 := (m.perRule.lookup id).getD 0

/-- The count of a number: whole 64-bit counts as they are, fractions cut off, all else moved to
the nearest count. -/
def coerceNumber : Json.Number → UInt64
  | .natural n => n
  | .negSucc .. => 0
  | .float s m => Double.toWord (.finite s m)

/-- The count of a value; what is no number counts nothing. -/
def coerce : Json → UInt64
  | .number n => coerceNumber n
  | _ => 0

/-- The counts of any stored value. -/
def normalize (v : Json) : Metrics where
  total := ((v.get? "total_redirects").map coerce).getD 0
  perRule := (((v.get? "per_rule").bind Json.members?).getD []).map fun (id, n) => (id, coerce n)

/-- A count written as such. -/
def count? : Json → Option UInt64
  | .number (.natural n) => some n
  | _ => none

/-- Every member of an object as a count. -/
def counts? (v : Json) : Option (List (String × UInt64)) := do
  (← v.members?).mapM fun (id, n) => return (id, ← count? n)

/-- The counts of a well-formed stored value: an object with both fields, or an array of both. -/
def decode? : Json → Option Metrics
  | .array [total, perRule] => return ⟨← count? total, ← counts? perRule⟩
  | .object members => do
    return ⟨← count? (← members.lookup "total_redirects"), ← counts? (← members.lookup "per_rule")⟩
  | _ => none

/-- The stored value of counts. -/
def encode (m : Metrics) : Json :=
  .object [
    ("per_rule", .object (m.perRule.map fun (id, n) => (id, .number (.natural n)))),
    ("total_redirects", .number (.natural m.total))]

end Metrics

end Reroute
