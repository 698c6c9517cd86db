import Reroute.Rule.Stored
import Reroute.Rule.Validation
import Reroute.Savings
import Reroute.Storage.Link

/-!
# Stores

A store has its own copies of rules, metrics and settings. Rules and settings live in its
configuration area, metrics in its metrics area.

## Main definitions

* `Store` — the copies and the links, `Store.new` — a store that has loaded nothing.
* `Links.resolve` — the shared area for rules and settings if there is one.
* `Store.rule?`, `Store.savings`, `Store.ruleSavings`, `Store.issues` — what can be asked.
* `Store.handle` — a change that was announced.
* `Store.Error` — why an operation failed.
-/

namespace Reroute

/-- The areas that a store reads and writes. -/
structure Links where
  config : Link
  metrics : Link
  deriving DecidableEq

/-- The shared area holds rules and settings if there is one; the local one holds the rest. -/
def Links.resolve (sync : Option Link) (device : Link) : Links := ⟨sync.getD device, device⟩

/-- The copies of one user of a storage. -/
structure Store where
  links : Links
  rules : List Rule
  metrics : Metrics
  settings : Settings
  deriving DecidableEq

namespace Store

def rulesKey : String := "redirect_rules"

def metricsKey : String := "redirect_metrics"

def settingsKey : String := "redirect_settings"

/-- Why an operation on a store failed. -/
inductive Error where
  | invalidRule (e : Rule.Error)
  | invalidRate (r : Refusal)
  | ruleNotFound (id : String)
  | notSaved (e : StorageError)
  deriving DecidableEq

/-- What is said about a failed operation. -/
def Error.message : Error → String
  | .invalidRule e => e.message
  | .invalidRate r => r.message
  | .ruleNotFound id => "rule not found: " ++ id
  | .notSaved e => "change kept but not saved: " ++ e.message

/-- A store that has loaded nothing. -/
def new (links : Links) : Store := ⟨links, [], .empty, .empty⟩

/-- The first rule with an id. -/
def rule? (s : Store) (id : String) : Option Rule := s.rules.find? (·.id = id)

/-- The place of the first rule with an id in the list. -/
def position? (s : Store) (id : String) : Option Nat := s.rules.findIdx? (·.id = id)

/-- What all redirects saved. -/
def savings (s : Store) : Savings := .total s.metrics s.settings

/-- What the redirects of one rule saved. -/
def ruleSavings (s : Store) (id : String) : Savings := .forRule s.metrics s.settings id

/-- The rules that are out of order, with their faults. -/
def issues (s : Store) : List (String × Rule.Error) :=
  s.rules.filterMap fun r => r.issue?.map fun e => (r.id, e)

/-- What an announced change renewed. -/
inductive Reconciled where
  | metrics
  | settings
  deriving DecidableEq

/-- Takes metrics and settings from an announced change. Rules are never taken from one. -/
def handle (s : Store) (c : Change) : Option Reconciled × Store :=
  let v := c.new.getD .null
  if c.place = ⟨s.links.metrics.area, metricsKey⟩ then
    (some .metrics, { s with metrics := .normalize v })
  else if c.place = ⟨s.links.config.area, settingsKey⟩ then
    (some .settings, { s with settings := .normalize v })
  else (none, s)

@[simp] theorem handle_rules (s : Store) (c : Change) : (s.handle c).2.rules = s.rules := by
  grind [handle]

@[simp] theorem handle_links (s : Store) (c : Change) : (s.handle c).2.links = s.links := by
  grind [handle]

end Store

end Reroute
