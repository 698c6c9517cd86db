import Reroute.Rate
import Reroute.Store.Basic

/-!
# Stores at their storage

Operations that read and write. A change is made in the store first and then saved; when saving
fails, the change stays and the failure is reported.

## Main definitions

* `Opened` — a store, the storage that it is opened on, and the ids to come.
* `Opened.loadRules`, `Opened.loadMetrics`, `Opened.loadSettings`, `Opened.openOn` — reading.
* `Opened.loaded` — the rules as they are read, `Opened.loadRules_eq` — and saved if need be.
* `Opened.persistRules`, `Opened.persistSettings` — writing.
* `Opened.addRule`, `Opened.updateRule`, `Opened.setEnabled`, `Opened.deleteRule`,
  `Opened.setRate` — changes.
-/

namespace Reroute

/-- A store with what it acts on. -/
structure Opened (σ : Type) where
  store : Store
  medium : σ
  ids : Supply

namespace Opened

variable {σ : Type} [Medium σ]

/-- The value under a key, or `null` when there is none or it cannot be read. -/
def readOrNull (m : σ) (p : Link) (key : String) : Json :=
  match p.read m key with
  | .ok (some v) => v
  | _ => .null

/-! ## Writing -/

/-- Saves a value under a key of the configuration area. -/
def save (o : Opened σ) (key : String) (v : Json) : Except Store.Error Unit × Opened σ :=
  match o.store.links.config.write o.medium key v with
  | .ok m => (.ok (), { o with medium := m })
  | .error e => (.error (.notSaved e), o)

/-- Saves the whole list of rules. -/
def persistRules (o : Opened σ) : Except Store.Error Unit × Opened σ :=
  o.save Store.rulesKey (Rule.encodeList o.store.rules)

def persistSettings (o : Opened σ) : Except Store.Error Unit × Opened σ :=
  o.save Store.settingsKey o.store.settings.encode

/-- Saves the rules and answers with `a` if that succeeds. -/
def savingRules (o : Opened σ) (a : α) : Except Store.Error α × Opened σ :=
  match o.persistRules with
  | (.ok _, o) => (.ok a, o)
  | (.error e, o) => (.error e, o)

/-! ## Reading -/

/-- Loads the rules. When items were given ids, the list is saved, so that they keep them. -/
def loadRules (o : Opened σ) : Opened σ :=
  let v := readOrNull o.medium o.store.links.config Store.rulesKey
  let (rules, ids) := Rule.listOfStored v o.ids
  let o := { o with store := { o.store with rules }, ids }
  if Rule.needsIds v then o.persistRules.2 else o

/-- The store with the rules of what is stored, before they are saved. -/
def loaded (o : Opened σ) : Opened σ :=
  let v := readOrNull o.medium o.store.links.config Store.rulesKey
  let store := { o.store with rules := (Rule.listOfStored v o.ids).1 }
  { o with store, ids := (Rule.listOfStored v o.ids).2 }

/-- Loading the rules saves them if an item needs an id, and does nothing else. -/
theorem loadRules_eq (o : Opened σ) : o.loadRules =
    if Rule.needsIds (readOrNull o.medium o.store.links.config Store.rulesKey) then
      o.loaded.persistRules.2
    else o.loaded := rfl

def loadMetrics (o : Opened σ) : Opened σ :=
  let v := readOrNull o.medium o.store.links.metrics Store.metricsKey
  { o with store := { o.store with metrics := .normalize v } }

def loadSettings (o : Opened σ) : Opened σ :=
  let v := readOrNull o.medium o.store.links.config Store.settingsKey
  { o with store := { o.store with settings := .normalize v } }

/-- A store that has loaded everything. -/
def openOn (links : Links) (m : σ) (ids : Supply) : Opened σ :=
  (⟨.new links, m, ids⟩ : Opened σ).loadRules.loadMetrics.loadSettings

/-! ## Changes -/

/-- Replaces the rules in the store. -/
def withRules (o : Opened σ) (rules : List Rule) : Opened σ :=
  { o with store := { o.store with rules } }

/-- Adds a new rule, switched on, at the end. -/
def addRule (o : Opened σ) (source target : String) : Except Store.Error Rule × Opened σ :=
  match (Rule.Draft.new source target).validate o.ids with
  | (.error e, _) => (.error (.invalidRule e), o)
  | (.ok r, ids) => ({ o with ids }.withRules (o.store.rules ++ [r])).savingRules r

/-- Changes fields of a rule, if the changed rule is in order. -/
def updateRule (o : Opened σ) (id : String) (edit : Rule.Edit) :
    Except Store.Error Rule × Opened σ :=
  match o.store.position? id, o.store.rule? id with
  | some i, some r =>
    match (r.apply edit).validate o.ids with
    | (.error e, _) => (.error (.invalidRule e), o)
    | (.ok r, ids) => ({ o with ids }.withRules (o.store.rules.set i r)).savingRules r
  | _, _ => (.error (.ruleNotFound id), o)

/-- Switches a rule on or off, in order or not. -/
def setEnabled (o : Opened σ) (id : String) (enabled : Bool) :
    Except Store.Error Rule × Opened σ :=
  match o.store.position? id, o.store.rule? id with
  | some i, some r =>
    let r := { r with enabled }
    (o.withRules (o.store.rules.set i r)).savingRules r
  | _, _ => (.error (.ruleNotFound id), o)

/-- Removes a rule. Its count stays. -/
def deleteRule (o : Opened σ) (id : String) : Except Store.Error Rule × Opened σ :=
  match o.store.position? id, o.store.rule? id with
  | some i, some r => (o.withRules (o.store.rules.eraseIdx i)).savingRules r
  | _, _ => (.error (.ruleNotFound id), o)

/-- Sets the hourly rate that an input asks for. -/
def setRate (o : Opened σ) (raw : String) : Except Store.Error (Option Double) × Opened σ :=
  match Rate.ofInput raw with
  | .error r => (.error (.invalidRate r), o)
  | .ok rate =>
    match { o with store := { o.store with settings := ⟨rate⟩ } }.persistSettings with
    | (.ok _, o) => (.ok rate, o)
    | (.error e, o) => (.error e, o)

end Opened

end Reroute
