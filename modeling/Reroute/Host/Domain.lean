import Reroute.Host.Punycode
import Reroute.Text.Fields
import Reroute.Unicode.Direction
import Reroute.Unicode.HostMapping
import Reroute.Unicode.Joining

/-!
# Domain names

A domain name is mapped, composed, and cut into labels; every label is checked and written in
ASCII. Lengths are not limited, apart from labels so long that they would not be decoded.

## Main definitions

* `Domain.isForbidden` — the ASCII characters that no domain holds.
* `Domain.unicodeLabel?` — a label with its ASCII form undone.
* `Domain.toAscii?` — the domain name in ASCII.
-/

namespace Reroute.Domain

open Unicode

/-- Controls and the characters with a meaning in a URL do not stand in a domain. -/
def isForbidden (c : Char) : Bool :=
  c.toNat ≤ 0x20 || c.toNat = 0x7F || c ∈ ['%', '#', '/', ':', '<', '>', '?', '@', '[', '\\', ']',
    '^', '|']

/-- The mark of a label in ASCII form. -/
def codeMark : List Char := ['x', 'n', '-', '-']

/-- The longest ASCII form that is decoded, and the longest label that is encoded. -/
def longestCode : Nat := 2000

def longestLabel : Nat := 1000

/-- Decoded characters must be such as a mapped and composed label holds. -/
def isStable (cs : List Char) : Bool :=
  cs.all (fun c => HostMapping.of c = .valid) && normalForm cs = cs

/-- A label with its ASCII form undone; a label that is not in ASCII form is left. -/
def unicodeLabel? (label : List Char) : Option (List Char) :=
  if codeMark <+: label then
    let code := label.drop 4
    if code = [] ∨ code.getLast? = some '-' ∨ longestCode < code.length then none
    else (Punycode.decode? code).filter isStable
  else some label

/-- A label, its ASCII form undone, is one that a domain may have. -/
def labelFits (label : List Char) : Bool :=
  !label.any isForbidden &&
    (label.all (·.toNat < 0x80) ||
      (label.length ≤ longestLabel && !(label.head?.any isMark) && joinersFit label))

/-- Labels keep the rule on direction, if any of them has a letter from right to left. -/
def directionsFit (labels : List (List Char)) : Bool :=
  let ds := labels.map fun l => l.map Direction.of
  !(ds.any fun d => d.any Direction.isRightToLeft) || ds.all Direction.fits

/-- A label in ASCII. -/
def asciiLabel (label : List Char) : List Char :=
  if label.all (·.toNat < 0x80) then label else codeMark ++ Punycode.encode label

/-- The domain name in ASCII. -/
def toAscii? (cs : List Char) : Option (List Char) := do
  let mapped ← HostMapping.map? cs
  let labels ← (Text.fields '.' (normalForm mapped)).mapM unicodeLabel?
  if labels.all labelFits && directionsFit labels then
    some (Text.join ['.'] (labels.map asciiLabel))
  else none

end Reroute.Domain
