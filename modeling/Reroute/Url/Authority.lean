import Reroute.Decimal
import Reroute.Url.Percent

/-!
# Authorities

The authority of a URL stands between two slashes and the path: a user with an optional password,
a host, and an optional port.

## Main definitions

* `Authority` — its parts as texts, `Authority.split` — the parts of a text.
* `Authority.port?` — the number of a port, `Authority.credentials` — the text of user and password.
-/

namespace Reroute

/-- The parts of an authority: what stands before the last `@`, the host, and what stands after the
colon of the port. -/
structure Authority where
  user : Option (List Char)
  host : List Char
  port : Option (List Char)

namespace Authority

/-- What stands before the last `@`, and what stands after it. -/
def splitUser (cs : List Char) : Option (List Char) × List Char :=
  if '@' ∈ cs then
    let after := (cs.reverse.takeWhile (· ≠ '@')).reverse
    (some (cs.take (cs.length - after.length - 1)), after)
  else (none, cs)

/-- The host up to a colon outside of brackets. -/
def spanHost (inside : Bool) : List Char → List Char × List Char
  | [] => ([], [])
  | c :: cs =>
    if c = ':' && !inside then ([], c :: cs)
    else
      let (host, rest) := spanHost (if c = '[' then true else if c = ']' then false else inside) cs
      (c :: host, rest)

/-- The parts of a text. -/
def split (cs : List Char) : Authority :=
  let (user, cs) := splitUser cs
  let (host, rest) := spanHost false cs
  { user, host, port := if rest = [] then none else some (rest.drop 1) }

/-- The number of a port; nothing if there are no digits. -/
def port? (cs : List Char) : Option (Option Nat) :=
  if cs.all Char.isDigit && Decimal.value cs ≤ 65535 then
    some (if cs = [] then none else some (Decimal.value cs))
  else none

/-- The characters of a user or password that are written as bytes. -/
def special : List Char :=
  [' ', '"', '<', '>', '`', '#', '?', '{', '}', '/', ':', ';', '=', '@', '[', '\\', ']', '^', '|']

/-- User and password before the host; a password that is empty is left out with its colon. -/
def credentials (user : List Char) : List Char :=
  let name := Percent.encode special (user.takeWhile (· ≠ ':'))
  let password := Percent.encode special ((user.dropWhile (· ≠ ':')).drop 1)
  if name = [] ∧ password = [] then []
  else name ++ (if password = [] then [] else ':' :: password) ++ ['@']

end Authority

end Reroute
