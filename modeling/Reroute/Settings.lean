import Reroute.Json.Basic

/-!
# Settings

The hourly rate by which saved time is valued. It may be unset.

## Main definitions

* `Settings.normalize` — the settings of any stored value.
* `Settings.decode?` — the settings of a well-formed one.
* `Settings.encode` — the stored value of settings.
-/

namespace Reroute

/-- What a user can set. -/
structure Settings where
  hourlyRate : Option Double
  deriving DecidableEq

namespace Settings

def empty : Settings := ⟨none⟩

/-- The settings of any stored value. A rate is taken as stored, without rounding, unless it is
below zero. -/
def normalize (v : Json) : Settings where
  hourlyRate :=
    (((v.get? "hourly_rate").bind Json.number?).map Json.Number.toDouble).filter
      fun rate => rate.isFinite && Double.zero.le rate

/-- A rate written as a number or as `null`. -/
def rate? : Json → Option (Option Double)
  | .null => some none
  | .number n => some (some n.toDouble)
  | _ => none

/-- The settings of a well-formed stored value: an object, where the rate may be missing, or an
array of the rate. -/
def decode? : Json → Option Settings
  | .array [rate] => return ⟨← rate? rate⟩
  | .object members =>
    match members.lookup "hourly_rate" with
    | some rate => return ⟨← rate? rate⟩
    | none => some empty
  | _ => none

/-- The stored value of a rate; JSON has no number for one that is not finite. -/
def encodeRate (rate : Option Double) : Json :=
  match rate.bind Json.Number.ofDouble? with
  | some n => .number n
  | none => .null

/-- The stored value of settings. -/
def encode (s : Settings) : Json := .object [("hourly_rate", encodeRate s.hourlyRate)]

end Settings

end Reroute
