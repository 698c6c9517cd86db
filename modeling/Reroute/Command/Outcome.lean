import Reroute.Store.Basic

/-!
# Outcomes of commands

A command prints lines and may fail at its end.

## Main definitions

* `Line` — a printed line, for the user or beside it a warning.
* `Failure` — why a command failed, `Failure.messages` — what is said, the causes after it.
* `Outcome` — lines and failure.
-/

namespace Reroute

/-- A line that a command prints. -/
inductive Line where
  | out (s : String)
  | warning (s : String)
  deriving DecidableEq

/-- Why a command failed. -/
inductive Failure where
  | nothingToChange
  | noSuchRule (text : String)
  | ambiguous (text : String) (count : Nat)
  | notATerminal
  | store (e : Store.Error)
  /-- The folder of the database cannot be made. -/
  | noFolder (path reason : String)
  | database (e : StorageError)
  deriving DecidableEq

/-- What is said about a failure, followed by its causes. -/
def Failure.messages : Failure → List String
  | .nothingToChange => ["nothing to change. Pass --source and/or --target."]
  | .noSuchRule text => ["rule not found: " ++ text]
  | .ambiguous text count =>
    ["'" ++ text ++ "' matches " ++ toString count ++ " rules, use a longer id"]
  | .notATerminal => ["IO error: not a terminal", "not a terminal"]
  | .store (.notSaved e) => [(Store.Error.notSaved e).message, e.message]
  | .store e => [e.message]
  | .noFolder path reason => ["cannot create data directory " ++ path, reason]
  | .database e => ["database access error", e.message]

/-- What a command prints, and why it failed if it did. -/
structure Outcome where
  lines : List Line
  failure : Option Failure
  deriving DecidableEq

namespace Outcome

/-- A command that prints lines. -/
def printing (lines : List Line) : Outcome := ⟨lines, none⟩

/-- A command that fails. -/
def failing (f : Failure) : Outcome := ⟨[], some f⟩

/-- A command that prints lines for the answer of the store, or reports its failure. -/
def ofResult (r : Except Store.Error α) (lines : α → List Line) : Outcome :=
  match r with
  | .ok a => printing (lines a)
  | .error e => failing (.store e)

end Outcome

end Reroute
