import Reroute.Refusal
import Reroute.Text.Blank
import Reroute.Text.Fields

/-!
# Source hostnames

The hostname that a rule redirects: two or more labels of small letters, digits and inner hyphens,
with points between.

## Main definitions

* `Hostname.isLabel` — a label may stand in a hostname.
* `Hostname.normalize` — a typed text without blanks around it, in small letters.
* `Hostname.ofInput` — the hostname that a text asks for.
-/

namespace Reroute.Hostname

/-- A character of a label. -/
def isLabelChar (c : Char) : Bool := ('a' ≤ c && c ≤ 'z') || ('0' ≤ c && c ≤ '9') || c = '-'

/-- A label has characters, all of them allowed, and no hyphen at its ends. -/
def isLabel (label : List Char) : Bool :=
  label ≠ [] && label.head? ≠ some '-' && label.getLast? ≠ some '-' && label.all isLabelChar

/-- The small letter of a letter. Beside the ASCII letters only the sign of the kelvin has a small
letter that a label may hold; other letters may stay, for no label holds them. -/
def lower (c : Char) : Char := if c = '\u212A' then 'k' else c.toLower

/-- A typed text without blanks around it, in small letters. -/
def normalize (raw : List Char) : List Char := (Text.trim raw).map lower

/-- Signs of a URL that is no hostname. -/
def isUrlSign (c : Char) : Bool := c = '/' || c = ' ' || c = ':' || c = '?'

/-- The hostname that a text asks for. -/
def ofInput (raw : String) : Except Refusal String :=
  let name := normalize raw.toList
  if name = [] ∨ name.any isUrlSign then .error .invalidHostname
  else
    let labels := Text.fields '.' name
    if labels.length < 2 ∨ !labels.all isLabel then .error .invalidHostname
    else .ok (String.ofList name)

end Reroute.Hostname
