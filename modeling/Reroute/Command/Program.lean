import Reroute.Command.Arguments
import Reroute.Command.Rules
import Reroute.Command.Stats
import Reroute.Config
import Reroute.Storage.Files

/-!
# The program

A run of the program opens the database that the configuration names, loads a store, and carries
out an action on it.

## Main definitions

* `Command.perform` — an action on an open store.
* `Command.runOn` — an action on a database, `Command.runIn` — on the files of the user.
* `Report` — what is seen of a run from outside, `Outcome.report` — that of an outcome.
-/

namespace Reroute

namespace Command

/-- The links of a store under a configuration. -/
def linksOf (c : Config) : Links :=
  .resolve (if c.syncEnabled then some (.sound .sync) else none) (.sound .device)

/-- Carries out an action. -/
def perform {σ : Type} [Medium σ] (o : Opened σ) : Action → Outcome × Opened σ
  | .listRules => (listRules o.store, o)
  | .addRule source target => addRule o source target
  | .editRule id edit => editRule o id edit
  | .enableRule id enabled => enableRule o id enabled
  | .deleteRule id sure => deleteRule o id sure
  | .rate input clear => rate o input clear
  | .stats => (stats o.store, o)

/-- Carries out an action on a store of its own. -/
def runOn (c : Config) (s : Session) (ids : Supply) (a : Action) : Outcome × Opened Session :=
  perform (.openOn (linksOf c) s ids) a

/-- The folder that a database needs, if its path has one. -/
def makeParent (f : Files) (here : Location) (path : String) : Except Failure Files :=
  match Files.parent? path with
  | none => .ok f
  | some parent =>
    match f.makeFolder here parent with
    | .ok f => .ok f
    | .error e => .error (.noFolder parent e.message)

/-- Carries out an action on the database among the files of the user. -/
def runIn (f : Files) (here : Location) (dataFolder : String) (c : Config) (ids : Supply)
    (a : Action) : Outcome × Files × Supply :=
  let path := c.databasePathIn dataFolder
  match makeParent f here path with
  | .error e => (.failing e, f, ids)
  | .ok f =>
    match f.openAt here path with
    | .error e => (.failing (.database e), f, ids)
    | .ok s =>
      let (r, o) := runOn c s ids a
      (r, f.keep here path o.medium.database, o.ids)

end Command

/-! ## Reports -/

/-- What is seen of a run from outside. -/
structure Report where
  code : Nat
  output : String
  errors : String
  deriving DecidableEq

namespace Outcome

/-- A text with its lines moved to the right. -/
def indented (s : String) : String := "\n".intercalate ((s.splitOn "\n").map ("    " ++ ·))

/-- A failure with its causes. There is at most one cause. -/
def failureText (f : Failure) : String :=
  match f.messages with
  | [] => ""
  | m :: causes =>
    "Error: " ++ m ++ "\n" ++
      if causes.isEmpty then ""
      else "\nCaused by:\n" ++ String.join (causes.map fun c => indented c ++ "\n")

/-- The lines for the user. -/
def output (o : Outcome) : String :=
  String.join <| o.lines.map fun
    | .out s => s ++ "\n"
    | .warning _ => ""

/-- The warnings. -/
def warnings (o : Outcome) : String :=
  String.join <| o.lines.map fun
    | .out _ => ""
    | .warning s => s ++ "\n"

/-- The report of an outcome. -/
def report (o : Outcome) : Report :=
  match o.failure with
  | none => ⟨0, o.output, o.warnings⟩
  | some f => ⟨1, o.output, o.warnings ++ failureText f⟩

end Outcome

end Reroute
