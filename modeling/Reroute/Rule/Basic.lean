/-!
# Rules

A rule sends one hostname to a URL. A draft is a rule as it was typed, before it is checked.

## Main definitions

* `Rule`, `Rule.Draft`, `Rule.Edit` — rules, drafts, and changes to a rule.
* `Rule.toDraft`, `Rule.apply` — a rule as a draft, and as a draft with changes.
-/

namespace Reroute

/-- A redirect rule. -/
structure Rule where
  id : String
  enabled : Bool
  source : String
  target : String
  deriving DecidableEq

namespace Rule

/-- A rule as it was typed. -/
structure Draft where
  id : Option String
  enabled : Bool
  source : String
  target : String
  deriving DecidableEq

/-- New texts for the fields of a rule; a missing one keeps the field. -/
structure Edit where
  source : Option String
  target : Option String
  deriving DecidableEq

/-- The draft of a new rule. -/
def Draft.new (source target : String) : Draft := ⟨none, true, source, target⟩

/-- The rule as a draft. -/
def toDraft (r : Rule) : Draft := ⟨some r.id, r.enabled, r.source, r.target⟩

/-- The rule as a draft with some fields changed. -/
def apply (r : Rule) (e : Edit) : Draft :=
  ⟨some r.id, r.enabled, e.source.getD r.source, e.target.getD r.target⟩

end Rule

end Reroute
