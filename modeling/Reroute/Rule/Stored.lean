import Reroute.Json.Basic
import Reroute.Rule.Basic
import Reroute.Rule.Id

/-!
# Stored rules

Rules are stored as an array of objects. Items are read leniently: what is missing or of another
kind is empty, off, or a new id, and rules that are out of order are kept.

## Main definitions

* `Rule.storedId?` — the id that a stored item brings.
* `Rule.ofStored`, `Rule.listOfStored` — the rule of any stored item, the rules of any stored value.
* `Rule.decode?` — the rule of a well-formed item.
* `Rule.encode`, `Rule.encodeList` — what is stored.
-/

namespace Reroute.Rule

/-- The usable id of a stored item: a text that is not empty, or a number as it is written. -/
def storedId? (v : Json) : Option String :=
  match v.get? "id" with
  | some (.string s) => if s = "" then none else some s
  | some (.number n) => some (String.ofList n.chars)
  | _ => none

/-- The text of a field, empty if there is none. -/
def textField (v : Json) (key : String) : String := ((v.get? key).bind Json.string?).getD ""

/-- The rule of a stored item with a given id. -/
def withId (id : String) (v : Json) : Rule where
  id := id
  enabled := ((v.get? "enabled").bind Json.bool?).getD false
  source := textField v "source_hostname"
  target := textField v "target_url"

/-- The rule of a stored item. -/
def ofStored (v : Json) (ids : Supply) : Rule × Supply :=
  match storedId? v with
  | some id => (withId id v, ids)
  | none => (withId ids.take.1 v, ids.take.2)

/-- The rules of stored items in their order. -/
def ofItems : List Json → Supply → List Rule × Supply
  | [], ids => ([], ids)
  | v :: vs, ids =>
    let (r, ids) := ofStored v ids
    let (rs, ids) := ofItems vs ids
    (r :: rs, ids)

/-- The rules of a stored value; what is no array holds none. -/
def listOfStored (v : Json) (ids : Supply) : List Rule × Supply :=
  ofItems (v.items?.getD []) ids

/-- Some item of a stored array has no usable id. -/
def needsIds (v : Json) : Bool := (v.items?.getD []).any fun item => (storedId? item).isNone

/-- The rule of a well-formed item: an object with all fields, or an array of all four. -/
def decode? : Json → Option Rule
  | .array [.string id, .bool enabled, .string source, .string target] =>
    some ⟨id, enabled, source, target⟩
  | .object members => do
    return {
      id := ← (← members.lookup "id").string?
      enabled := ← (← members.lookup "enabled").bool?
      source := ← (← members.lookup "source_hostname").string?
      target := ← (← members.lookup "target_url").string? }
  | _ => none

/-- What is stored of a rule. -/
def encode (r : Rule) : Json :=
  .object [("enabled", .bool r.enabled), ("id", .string r.id),
    ("source_hostname", .string r.source), ("target_url", .string r.target)]

/-- What is stored of rules. -/
def encodeList (rs : List Rule) : Json := .array (rs.map encode)

end Reroute.Rule
