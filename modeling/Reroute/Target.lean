import Reroute.Refusal
import Reroute.Text.Blank
import Reroute.Url.Basic

/-!
# Targets

Where a rule redirects to: a web URL in its normal form.

## Main definitions

* `Target` — the URL and its hostname, `Target.ofInput` — the target that a text asks for.
-/

namespace Reroute

/-- A web URL in its normal form, and its hostname. -/
structure Target where
  url : String
  hostname : String
  deriving DecidableEq

namespace Target

def ofUrl (u : WebUrl) : Target := ⟨String.ofList u.chars, String.ofList u.host.chars⟩

/-- The target that a text asks for. -/
def ofInput (raw : String) : Except Refusal Target :=
  match Url.read? (Text.trim raw.toList) with
  | none => .error .invalidUrl
  | some (.foreign _) => .error .unsupportedScheme
  | some (.web u) => .ok (ofUrl u)

end Target

end Reroute
