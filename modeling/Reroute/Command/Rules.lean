import Reroute.Command.Outcome
import Reroute.Store.Opened
import Reroute.Text.Pad

/-!
# Commands on rules

Rules are named by their id or by the beginning of it, if only one rule has that beginning.

## Main definitions

* `Command.shortId` — the id as it is printed, `Command.resolveId` — the id that a text means.
* `Command.listRules` — the table of rules, faults under their rows.
* `Command.addRule`, `Command.editRule`, `Command.enableRule`, `Command.deleteRule`.
-/

namespace Reroute.Command

/-- The first eight characters of an id. -/
def shortId (id : String) : String := String.ofList (id.toList.take 8)

/-- The id of the rule that a text means: the text itself, or the only id that begins with it. -/
def resolveId (rules : List Rule) (text : String) : Except Failure String :=
  if rules.any (·.id = text) then .ok text
  else if text = "" then .error (.noSuchRule text)
  else
    match rules.filter fun r => text.toList.isPrefixOf r.id.toList with
    | [] => .error (.noSuchRule text)
    | [r] => .ok r.id
    | rs => .error (.ambiguous text rs.length)

/-- A row of the table of rules. -/
def tableRow (id enabled source target count : String) : String :=
  Text.padEnd 8 id ++ "  " ++ Text.padEnd 3 enabled ++ "  " ++ Text.padEnd 28 source ++ " "
    ++ Text.padEnd 36 target ++ " " ++ Text.padStart 9 count

/-- The row of a rule. -/
def ruleRow (s : Store) (r : Rule) : String :=
  tableRow (shortId r.id) (if r.enabled then "yes" else "no") r.source r.target
    (toString (s.metrics.countFor r.id))

/-- The fault that is listed for an id. -/
def issueOf? (s : Store) (id : String) : Option Rule.Error := s.issues.lookup id

/-- The row of a rule, and under it the fault listed for its id. -/
def ruleLines (s : Store) (r : Rule) : List Line :=
  .out (ruleRow s r) ::
    match issueOf? s r.id with
    | some e => [.out ("└── " ++ e.message)]
    | none => []

/-- The table of rules. -/
def listRules (s : Store) : Outcome :=
  if s.rules.isEmpty then
    .printing [.out
      "No redirect rules yet. Add one with 'detour rules add <source> <target>'."]
  else
    .printing <|
      [.out "", .out (tableRow "ID" "ON" "SOURCE" "TARGET" "REDIRECTS")]
        ++ s.rules.flatMap (ruleLines s) ++ [.out ""]

variable {σ : Type} [Medium σ]

/-- What is said about a rule that was added or changed. -/
def changedLine (verb : String) (r : Rule) : List Line :=
  [.out ("Rule " ++ shortId r.id ++ " " ++ verb ++ ": " ++ r.source ++ " -> " ++ r.target)]

def addRule (o : Opened σ) (source target : String) : Outcome × Opened σ :=
  let (r, o) := o.addRule source target
  (.ofResult r (changedLine "added"), o)

/-- Changes the source or the target of a rule. -/
def editRule (o : Opened σ) (text : String) (edit : Rule.Edit) : Outcome × Opened σ :=
  if edit.source = none ∧ edit.target = none then (.failing .nothingToChange, o)
  else
    match resolveId o.store.rules text with
    | .error f => (.failing f, o)
    | .ok id =>
      let (r, o) := o.updateRule id edit
      (.ofResult r (changedLine "updated"), o)

/-- Switches a rule on or off, and warns of its fault. -/
def enableRule (o : Opened σ) (text : String) (enabled : Bool) : Outcome × Opened σ :=
  match resolveId o.store.rules text with
  | .error f => (.failing f, o)
  | .ok id =>
    let (r, o) := o.setEnabled id enabled
    (.ofResult r fun r =>
      .out ("Rule " ++ shortId r.id ++ " " ++ (if r.enabled then "enabled" else "disabled") ++ ".")
        :: match issueOf? o.store r.id with
          | some e => [.warning ("warning: this rule does not validate (" ++ e.message ++ ")")]
          | none => [], o)

/-- Deletes a rule. Without a terminal the question whether to do so cannot be asked. -/
def deleteRule (o : Opened σ) (text : String) (sure : Bool) : Outcome × Opened σ :=
  match resolveId o.store.rules text with
  | .error f => (.failing f, o)
  | .ok id =>
    if sure then
      let (r, o) := o.deleteRule id
      (.ofResult r fun r => [.out ("Rule " ++ shortId r.id ++ " deleted.")], o)
    else (.failing .notATerminal, o)

end Reroute.Command
