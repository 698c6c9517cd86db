import Reroute.Host.Domain
import Reroute.Host.Ipv4
import Reroute.Host.Ipv6

/-!
# Hosts

The host of a URL is a domain name or an address. Other schemes allow opaque hosts, which are only
checked for characters that end a host.

## Main definitions

* `Host` — domains and addresses, `Host.read?` — the host of a text with its percent signs undone,
  `Host.chars` — its text.
* `Host.isOpaque` — a text is a host of some other scheme.
-/

namespace Reroute

/-- The host of a URL. -/
inductive Host where
  | domain (name : List Char)
  | ipv4 (address : Nat)
  | ipv6 (pieces : List Nat)
  deriving DecidableEq

namespace Host

/-- The text of a host. -/
def chars : Host → List Char
  | .domain name => name
  | .ipv4 a => Ipv4.chars a
  | .ipv6 ps => '[' :: (Ipv6.chars ps ++ [']'])

/-- An address between brackets. -/
def bracketed? (cs : List Char) : Option Host :=
  if cs.getLast? = some ']' then (Ipv6.read? cs.dropLast).map .ipv6 else none

/-- A domain name, or the address that it spells. -/
def ofDomain? (cs : List Char) : Option Host := do
  let name ← Domain.toAscii? cs
  if name = [] then none
  else if Ipv4.endsInNumber name then (Ipv4.read? name).map .ipv4
  else some (.domain name)

/-- The host of a text, given how percent signs are undone. -/
def read? (undo : List Char → Option (List Char)) : List Char → Option Host
  | '[' :: cs => bracketed? cs
  | cs => (undo cs).bind ofDomain?

/-- A character that a host of another scheme cannot hold. -/
def endsOpaque (c : Char) : Bool :=
  c.toNat = 0 || c ∈ ['\t', '\n', '\r', ' ', '#', '/', ':', '<', '>', '?', '@', '[', '\\', ']',
    '^', '|']

/-- The text is a host of some other scheme. -/
def isOpaque : List Char → Bool
  | '[' :: cs => (bracketed? cs).isSome
  | cs => !cs.any endsOpaque

end Host

end Reroute
