import Reroute.Command.Outcome
import Reroute.Store.Opened

/-!
# The rate command

## Main definitions

* `Command.rate` — shows the hourly rate, sets it, or clears it.
-/

namespace Reroute.Command

/-- An amount with two places. -/
def amountText (x : Double) : String := String.ofList (x.fixed 2)

/-- The rate as it is shown. -/
def rateLine : Option Double → Line
  | some x => .out ("Hourly rate: " ++ amountText x)
  | none => .out "No hourly rate set. Money saved is shown as $0.00."

/-- What is said after the rate was set. -/
def rateSetLine : Option Double → Line
  | some x => .out ("Hourly rate set to " ++ amountText x ++ ".")
  | none => .out "Hourly rate cleared."

variable {σ : Type} [Medium σ]

/-- Sets the rate that an input asks for. -/
def setRate (o : Opened σ) (input : String) : Outcome × Opened σ :=
  let (r, o) := o.setRate input
  (.ofResult r fun x => [rateSetLine x], o)

/-- Clears the rate, sets it, or shows it. -/
def rate (o : Opened σ) (input : Option String) (clear : Bool) : Outcome × Opened σ :=
  if clear then setRate o ""
  else match input with
    | some input => setRate o input
    | none => (.printing [rateLine o.store.settings.hourlyRate], o)

end Reroute.Command
