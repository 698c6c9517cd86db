import Reroute.Hostname
import Reroute.Rule.Basic
import Reroute.Rule.Id
import Reroute.Target

/-!
# Validation of rules

A draft becomes a rule if both its fields are in order and do not lead in a circle. Faults of the
source are reported before those of the target.

## Main definitions

* `Rule.Error` — a refusal at one of the fields.
* `Rule.Draft.fields` — the fields in their normal form.
* `Rule.Draft.validate` — the rule of a draft; a draft without an id takes one from the supply.
-/

namespace Reroute.Rule

/-- A refusal, with the field that it is shown beside. -/
inductive Error where
  | source (r : Refusal)
  | target (r : Refusal)
  deriving DecidableEq

/-- The refusal behind the name of its field. -/
def Error.message : Error → String
  | .source r => "source: " ++ r.message
  | .target r => "target: " ++ r.message

/-- The hostname and the target URL of a draft in their normal form. -/
def Draft.fields (d : Draft) : Except Error (String × String) :=
  match Hostname.ofInput d.source with
  | .error r => .error (.source r)
  | .ok source =>
    match Target.ofInput d.target with
    | .error r => .error (.target r)
    | .ok target =>
      if target.hostname = source then .error (.target .selfLoop) else .ok (source, target.url)

/-- The id of a draft, unless it is empty, or else the next one of the supply. -/
def Draft.claimId (d : Draft) (ids : Supply) : String × Supply :=
  match d.id with
  | none => ids.take
  | some id => if id = "" then ids.take else (id, ids)

/-- The rule of a draft. -/
def Draft.validate (d : Draft) (ids : Supply) : Except Error Rule × Supply :=
  match d.fields with
  | .error e => (.error e, ids)
  | .ok (source, target) =>
    let (id, ids) := d.claimId ids
    (.ok ⟨id, d.enabled, source, target⟩, ids)

/-- The fault of a rule as it is, if it has one. -/
def issue? (r : Rule) : Option Error :=
  match r.toDraft.fields with
  | .error e => some e
  | .ok _ => none

end Reroute.Rule
