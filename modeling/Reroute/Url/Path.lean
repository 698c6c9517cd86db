import Reroute.Text.Fields
import Reroute.Url.Percent

/-!
# Paths

A path is a list of segments. A segment of one dot stands for nothing, and one of two dots takes
the segment before it away, unless that is the letter of a drive.

## Main definitions

* `Path.read` — the segments of a text, `Path.chars` — the text of segments.
-/

namespace Reroute.Path

/-- The characters of a path that are written as bytes. -/
def special : List Char := [' ', '"', '<', '>', '`', '#', '?', '{', '}']

/-- Spellings of a segment of one dot. -/
def isDot (s : List Char) : Bool := s = ['.'] || s.map Char.toLower = ['%', '2', 'e']

/-- Spellings of a segment of two dots. -/
def isDotDot (s : List Char) : Bool :=
  let s := s.map Char.toLower
  s = ['.', '.'] || s = ['.', '%', '2', 'e'] || s = ['%', '2', 'e', '.']
    || s = ['%', '2', 'e', '%', '2', 'e']

/-- A letter and a colon or a bar name a drive. -/
def isDrive (s : List Char) : Bool :=
  match s with
  | [c, d] => c.isAlpha && (d = ':' || d = '|')
  | _ => false

/-- The segments before, without the last one if it may be taken away; they are reversed. -/
def up : List (List Char) → List (List Char)
  | [] => []
  | s :: ss => if isDrive s then s :: ss else ss

/-- Resolves dots; `done` are the segments before, reversed. The last segment ends the path without
a slash, so dots there leave an empty one. -/
def resolve (done : List (List Char)) : List (List Char) → List (List Char)
  | [] => done.reverse
  | [s] =>
    if isDotDot s then ([] :: up done).reverse
    else if isDot s then ([] :: done).reverse
    else (s :: done).reverse
  | s :: ss =>
    if isDotDot s then resolve (up done) ss
    else if isDot s then resolve done ss
    else resolve (s :: done) ss

/-- The segments of the text after the host: slashes in either direction lead and divide them. -/
def read (cs : List Char) : List (List Char) :=
  let cs := cs.map fun c => if c = '\\' then '/' else c
  let cs := match cs with
    | '/' :: rest => rest
    | cs => cs
  resolve [] ((Text.fields '/' cs).map (Percent.encode special))

/-- Each segment after a slash. -/
def chars (segments : List (List Char)) : List Char := segments.flatMap ('/' :: ·)

end Reroute.Path
