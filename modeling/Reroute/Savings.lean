import Reroute.Double.Text
import Reroute.Metrics
import Reroute.Settings

/-!
# Savings

Every redirect saves seventeen and a half minutes, and an hour is worth the hourly rate.

## Main definitions

* `Savings` — redirects, minutes and money.
* `Savings.total`, `Savings.forRule` — the savings of all redirects, and of one rule's.
* `Savings.durationLabel`, `Savings.moneyLabel` — how minutes and money are shown.
-/

namespace Reroute

/-- What some redirects saved. -/
structure Savings where
  redirects : UInt64
  minutes : Double
  money : Double
  deriving DecidableEq

namespace Savings

/-- The minutes that one redirect saves. -/
def minutesPerRedirect : Double := .ofRatio 35 2

/-- The minutes that redirects save. -/
def minutesSaved (redirects : UInt64) : Double :=
  (Double.ofNat redirects.toNat).mul minutesPerRedirect

/-- What minutes are worth; nothing if the rate is unset. -/
def moneySaved (minutes : Double) : Option Double → Double
  | some rate => minutes.mul (rate.div 60)
  | none => .zero

def ofRedirects (redirects : UInt64) (s : Settings) : Savings where
  redirects := redirects
  minutes := minutesSaved redirects
  money := moneySaved (minutesSaved redirects) s.hourlyRate

/-- The savings of all redirects. -/
def total (m : Metrics) (s : Settings) : Savings := ofRedirects m.total s

/-- The savings of one rule's redirects. -/
def forRule (m : Metrics) (s : Settings) (id : String) : Savings := ofRedirects (m.countFor id) s

/-- Minutes with one place below an hour, then hours and minutes, from a day on days and hours. The
smaller unit is left out when it is zero. -/
def durationChars (minutes : Double) : List Char :=
  if minutes.lt 60 then minutes.fixed 1 ++ ['m']
  else if minutes.lt 1440 then
    let hours := (minutes.div 60).floor
    let rest := (minutes.rem 60).floor
    hours.positional ++ 'h' :: (if rest.eqv 0 then [] else ' ' :: (rest.positional ++ ['m']))
  else
    let days := (minutes.div 1440).floor
    let rest := ((minutes.rem 1440).div 60).floor
    days.positional ++ 'd' :: (if rest.eqv 0 then [] else ' ' :: (rest.positional ++ ['h']))

/-- Dollars and cents; from an amount that rounds to a thousand dollars on, thousands with one
place. -/
def moneyChars (amount : Double) : List Char :=
  if Double.le 1000 (((amount.mul 100).round).div 100) then
    '$' :: ((amount.div 1000).fixed 1 ++ ['k'])
  else '$' :: amount.fixed 2

def durationText (minutes : Double) : String := String.ofList (durationChars minutes)

def moneyText (amount : Double) : String := String.ofList (moneyChars amount)

/-- How the saved time is shown. -/
def durationLabel (s : Savings) : String := durationText s.minutes

/-- How the saved money is shown. -/
def moneyLabel (s : Savings) : String := moneyText s.money

end Savings

end Reroute
