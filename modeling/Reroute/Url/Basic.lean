import Reroute.Host.Basic
import Reroute.Url.Authority
import Reroute.Url.Path

/-!
# URLs

A web URL is read into its parts and written in its normal form. URLs of other schemes are told
apart from texts that are no URL at all.

## Main definitions

* `WebUrl` — the parts of a web URL, `WebUrl.chars` — its normal form.
* `Url.Reading` — a web URL or one of another scheme, `Url.read?` — what a text spells.
-/

namespace Reroute

/-- A URL of one of the two schemes of the web. -/
structure WebUrl where
  secure : Bool
  user : List Char
  host : Host
  port : Option Nat
  path : List (List Char)
  query : Option (List Char)
  fragment : Option (List Char)
  deriving DecidableEq

namespace WebUrl

/-- The port that need not be written. -/
def usualPort (secure : Bool) : Nat := if secure then 443 else 80

/-- The normal form. -/
def chars (u : WebUrl) : List Char :=
  (if u.secure then ['h', 't', 't', 'p', 's'] else ['h', 't', 't', 'p']) ++ [':', '/', '/']
    ++ Authority.credentials u.user ++ u.host.chars
    ++ (match u.port with | some p => ':' :: Decimal.digits p | none => [])
    ++ Path.chars u.path
    ++ (match u.query with | some q => '?' :: q | none => [])
    ++ (match u.fragment with | some f => '#' :: f | none => [])

end WebUrl

namespace Url

/-- What a text that is a URL spells. -/
inductive Reading where
  | web (url : WebUrl)
  | foreign (scheme : List Char)
  deriving DecidableEq

/-- Controls and spaces around a URL, and tabs and line ends inside, do not count. -/
def clean (cs : List Char) : List Char :=
  let isEdge := fun (c : Char) => c.toNat ≤ 0x20
  let cs := ((cs.dropWhile isEdge).reverse.dropWhile isEdge).reverse
  cs.filter fun c => c ≠ '\t' ∧ c ≠ '\n' ∧ c ≠ '\r'

/-- A character of a scheme after the first. -/
def isSchemeChar (c : Char) : Bool := c.isAlphanum || c = '+' || c = '-' || c = '.'

/-- The scheme in lower case, and what follows its colon. -/
def scheme? (cs : List Char) : Option (List Char × List Char) :=
  match cs, cs.dropWhile isSchemeChar with
  | c :: _, ':' :: rest =>
    if c.isAlpha then some ((cs.takeWhile isSchemeChar).map Char.toLower, rest) else none
  | _, _ => none

/-- A slash in either direction. -/
def isSlash (c : Char) : Bool := c = '/' || c = '\\'

/-- The end of an authority; a backslash ends it in the schemes that know hosts. -/
def endsAuthority (special : Bool) (c : Char) : Bool :=
  c = '/' || c = '?' || c = '#' || (special && c = '\\')

def hostOf? (cs : List Char) : Option Host := Host.read? Percent.decode? cs

/-- The characters of a query that are written as bytes. -/
def querySpecial : List Char := [' ', '"', '#', '<', '>', '\'']

/-- The characters of a fragment that are written as bytes. -/
def fragmentSpecial : List Char := [' ', '"', '<', '>', '`']

/-- What stands behind a mark, if the text begins with it. -/
def after? (mark : Char) : List Char → Option (List Char)
  | [] => none
  | c :: cs => if c = mark then some cs else none

/-- A web URL after its scheme. Any number of slashes may lead to the authority, and the host must
not be empty. -/
def web? (secure : Bool) (cs : List Char) : Option WebUrl := do
  let cs := cs.dropWhile isSlash
  let authority := Authority.split (cs.takeWhile fun c => !endsAuthority true c)
  let rest := cs.dropWhile fun c => !endsAuthority true c
  if authority.host = [] then none
  let host ← hostOf? authority.host
  let port ← Authority.port? (authority.port.getD [])
  let path := rest.takeWhile fun c => c ≠ '?' && c ≠ '#'
  let rest := rest.dropWhile fun c => c ≠ '?' && c ≠ '#'
  let query := (after? '?' rest).map (·.takeWhile (· ≠ '#'))
  let fragment := after? '#' (rest.dropWhile (· ≠ '#'))
  return {
    secure
    user := authority.user.getD []
    host
    port := port.filter (· ≠ WebUrl.usualPort secure)
    path := Path.read path
    query := query.map (Percent.encode querySpecial)
    fragment := fragment.map (Percent.encode fragmentSpecial) }

/-- The text after a scheme with hosts other than the web's is in order. -/
def otherFits (cs : List Char) : Bool :=
  let cs := cs.dropWhile isSlash
  let authority := Authority.split (cs.takeWhile fun c => !endsAuthority true c)
  authority.host ≠ [] && (hostOf? authority.host).isSome
    && (Authority.port? (authority.port.getD [])).isSome

/-- The text after the scheme of files is in order: a host between two slashes and the path must be
one, unless it is a drive. -/
def fileFits (cs : List Char) : Bool :=
  match cs with
  | a :: b :: rest =>
    if isSlash a && isSlash b then
      let host := rest.takeWhile fun c => !endsAuthority true c
      host = [] || Path.isDrive host || (hostOf? host).isSome
    else true
  | _ => true

/-- The text after any other scheme is in order. Without two slashes there is nothing to check; a
host may be missing if no user and no port is given for it. -/
def opaqueFits (cs : List Char) : Bool :=
  match cs with
  | '/' :: '/' :: rest =>
    let text := rest.takeWhile fun c => !endsAuthority false c
    let authority := Authority.split text
    let port := (authority.port.getD []).takeWhile (· ≠ '\\')
    let userless := match authority.user with
      | none => true
      | some [] => rest.length = 1
      | some user => user = [':']
    Host.isOpaque authority.host && (Authority.port? port).isSome
      && (authority.host ≠ [] || (authority.port.isNone && userless))
  | _ => true

/-- What a text spells, if it is a URL. -/
def read? (cs : List Char) : Option Reading := do
  let (scheme, rest) ← scheme? (clean cs)
  match String.ofList scheme with
  | "http" => return .web (← web? false rest)
  | "https" => return .web (← web? true rest)
  | "ws" | "wss" | "ftp" => if otherFits rest then some (.foreign scheme) else none
  | "file" => if fileFits rest then some (.foreign scheme) else none
  | _ => if opaqueFits rest then some (.foreign scheme) else none

end Url

end Reroute
