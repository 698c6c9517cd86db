/-!
# Layout of TOML text

What stands between the parts of a document: spaces, comments and the ends of lines.

## Main definitions

* `Toml.isPlain` — a character that comments and strings may hold as it is.
* `Toml.skipSpaces`, `Toml.skipLayout` — layout within a line, and over lines.
* `Toml.newline?`, `Toml.lineEnd?` — the end of a line.
-/

namespace Reroute.Toml

/-- No control character but the tab. -/
def isPlain (c : Char) : Bool := c = '\t' || (0x20 ≤ c.toNat && c.toNat ≠ 0x7F)

def isSpace (c : Char) : Bool := c = ' ' || c = '\t'

def skipSpaces (cs : List Char) : List Char := cs.dropWhile isSpace

/-- What follows a newline at the front. -/
def newline? : List Char → Option (List Char)
  | '\n' :: rest => some rest
  | '\r' :: '\n' :: rest => some rest
  | _ => none

/-- What follows a comment, if there is one at the front. -/
def skipComment : List Char → List Char
  | '#' :: rest => rest.dropWhile isPlain
  | cs => cs

/-- What follows the rest of a line, if that holds spaces and a comment only. -/
def lineEnd? (cs : List Char) : Option (List Char) :=
  match skipComment (skipSpaces cs) with
  | [] => some []
  | rest => newline? rest

/-- Skips spaces, newlines and comments, being in a comment or not. -/
def skipLayout (inComment : Bool) : List Char → List Char
  | [] => []
  | '\r' :: '\n' :: rest => skipLayout false rest
  | c :: rest =>
    if inComment && isPlain c then skipLayout true rest
    else if isSpace c || c = '\n' then skipLayout false rest
    else if c = '#' then skipLayout true rest
    else c :: rest

end Reroute.Toml
