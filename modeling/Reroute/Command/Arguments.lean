import Reroute.Rule.Basic

/-!
# Arguments

What the user asks for on the command line. Options are written `--name value` or `--name=value`,
flags `--name` or as single letters after one hyphen; after `--` everything is taken as it is.

## Main definitions

* `Command.Action`, `Command.Request` — what can be asked for.
* `Command.Signature` — which arguments a command takes, `Command.Given` — arguments sorted.
* `Command.sort?` — sorts arguments, `Command.Request.ofArguments?` — the request of arguments.
-/

namespace Reroute.Command

/-- What can be done at once. -/
inductive Action where
  | listRules
  | addRule (source target : String)
  | editRule (id : String) (edit : Rule.Edit)
  | enableRule (id : String) (enabled : Bool)
  | deleteRule (id : String) (sure : Bool)
  | rate (input : Option String) (clear : Bool)
  | stats
  deriving DecidableEq

/-- What can be asked for. -/
inductive Request where
  | action (a : Action)
  | watch
  deriving DecidableEq

/-! ## Single arguments -/

/-- The form of an argument. -/
inductive Form where
  /-- Two hyphens and a name, perhaps with a value after an equals sign. -/
  | long (name : String) (value : Option String)
  /-- One hyphen and letters. -/
  | letters (cs : List Char)
  | plain
  deriving DecidableEq

/-- The form of an argument; hyphens alone are plain. -/
def formOf (arg : String) : Form :=
  match arg.toList with
  | '-' :: '-' :: c :: cs =>
    let name := String.ofList ((c :: cs).takeWhile (· ≠ '='))
    match (c :: cs).dropWhile (· ≠ '=') with
    | [] => .long name none
    | _ :: value => .long name (some (String.ofList value))
  | ['-', '-'] => .plain
  | '-' :: c :: cs => .letters (c :: cs)
  | _ => .plain

/-- An argument that can be the value of an option before it. -/
def isValue (arg : String) : Bool := formOf arg = .plain && arg ≠ "--"

/-! ## Sorting -/

/-- Which arguments a command takes. -/
structure Signature where
  /-- How many plain arguments there may be. -/
  positionals : Nat
  /-- Names that need a value. -/
  options : List String
  /-- Names without a value. -/
  flags : List String
  /-- Single letters that stand for flags. -/
  letters : List (Char × String)
  /-- Unknown names and letters count as plain arguments. -/
  hyphensAllowed : Bool

/-- Arguments sorted by their form. -/
structure Given where
  positionals : List String
  options : List (String × String)
  flags : List String

namespace Given

def none : Given := ⟨[], [], []⟩

/-- Takes a plain argument, if there is room for one. -/
def positional? (g : Given) (s : Signature) (arg : String) : Option Given :=
  if g.positionals.length < s.positionals then
    some { g with positionals := g.positionals ++ [arg] }
  else .none

/-- Takes an option that was not given before. -/
def option? (g : Given) (name value : String) : Option Given :=
  if (g.options.lookup name).isSome then .none
  else some { g with options := g.options ++ [(name, value)] }

/-- Takes a flag that was not given before. -/
def flag? (g : Given) (name : String) : Option Given :=
  if g.flags.contains name then .none else some { g with flags := g.flags ++ [name] }

end Given

/-- An unknown name or letter may be the next plain argument. -/
def Signature.takesHyphens (s : Signature) (g : Given) : Bool :=
  s.hyphensAllowed && decide (g.positionals.length < s.positionals)

/-- A letter with a meaning; asking for help is one everywhere. -/
def Signature.knows (s : Signature) (c : Char) : Bool := c = 'h' || (s.letters.lookup c).isSome

/-- Sorts arguments. Repeated, unknown and superfluous ones are refused, and so are calls for
help. -/
def sort? (s : Signature) : List String → Given → Option Given
  | [], g => some g
  | arg :: rest, g =>
    if arg = "--" then rest.foldlM (fun g arg => g.positional? s arg) g
    else match formOf arg with
      | .plain => (g.positional? s arg).bind (sort? s rest)
      | .letters cs =>
        if s.takesHyphens g && cs.any (fun c => !s.knows c) then
          (g.positional? s arg).bind (sort? s rest)
        else
          (cs.foldlM (fun g c => (s.letters.lookup c).bind g.flag?) g).bind (sort? s rest)
      | .long name (some value) =>
        if s.options.contains name then (g.option? name value).bind (sort? s rest)
        else if s.takesHyphens g && !s.flags.contains name && name ≠ "help" then
          (g.positional? s arg).bind (sort? s rest)
        else none
      | .long name none =>
        if s.options.contains name then
          match rest with
          | value :: rest =>
            if isValue value then (g.option? name value).bind (sort? s rest) else none
          | [] => none
        else if s.flags.contains name then (g.flag? name).bind (sort? s rest)
        else if s.takesHyphens g && name ≠ "help" then
          (g.positional? s arg).bind (sort? s rest)
        else none

/-! ## Requests -/

/-- A command with plain arguments only. -/
def plain (positionals : Nat) : Signature := ⟨positionals, [], [], [], false⟩

/-- The action of arguments after `rules`. -/
def rulesAction? : List String → Option Action
  | [] => none
  | command :: args =>
    if command = "list" then (sort? (plain 0) args .none).map fun _ => .listRules
    else if command = "add" then do
      match (← sort? (plain 2) args .none).positionals with
      | [source, target] => some (.addRule source target)
      | _ => none
    else if command = "edit" then do
      let g ← sort? ⟨1, ["source", "target"], [], [], false⟩ args .none
      match g.positionals with
      | [id] => some (.editRule id ⟨g.options.lookup "source", g.options.lookup "target"⟩)
      | _ => none
    else if command = "enable" ∨ command = "disable" then do
      match (← sort? (plain 1) args .none).positionals with
      | [id] => some (.enableRule id (command = "enable"))
      | _ => none
    else if command = "delete" then do
      let g ← sort? ⟨1, [], ["yes"], [('y', "yes")], false⟩ args .none
      match g.positionals with
      | [id] => some (.deleteRule id (g.flags.contains "yes"))
      | _ => none
    else none

/-- The action of arguments after `rate`. A rate may begin with a hyphen; none may be given when
the rate is to be cleared. -/
def rateAction? (args : List String) : Option Action := do
  let g ← sort? ⟨1, [], ["clear"], [], true⟩ args .none
  match g.positionals, g.flags.contains "clear" with
  | _ :: _, true => none
  | positionals, clear => some (.rate positionals.head? clear)

/-- The request of arguments, unless they are refused. -/
def Request.ofArguments? : List String → Option Request
  | [] => none
  | command :: args =>
    if command = "rules" then (rulesAction? args).map .action
    else if command = "rate" then (rateAction? args).map .action
    else if command = "stats" then (sort? (plain 0) args .none).map fun _ => .action .stats
    else if command = "watch" then (sort? (plain 0) args .none).map fun _ => .watch
    else none

end Reroute.Command
