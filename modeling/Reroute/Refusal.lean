/-!
# Refusals

Why a text that a user typed is not accepted.

## Main definitions

* `Refusal` — the causes, `Refusal.message` — the advice shown for each.
-/

namespace Reroute

/-- Why an input is not accepted. -/
inductive Refusal where
  | invalidHostname
  | invalidUrl
  | unsupportedScheme
  | selfLoop
  | notANumber
  | negative
  deriving DecidableEq, Repr

/-- The advice shown for a refusal. -/
def Refusal.message : Refusal → String
  | .invalidHostname => "enter a hostname such as example.com, without scheme, path or port"
  | .invalidUrl => "enter a full URL such as https://example.com/page"
  | .unsupportedScheme => "only http and https targets are supported"
  | .selfLoop => "target must not point back to the source hostname"
  | .notANumber => "hourly rate must be a number"
  | .negative => "hourly rate cannot be negative"

end Reroute
