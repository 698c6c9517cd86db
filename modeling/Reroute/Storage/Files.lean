import Reroute.Storage.Database

/-!
# Databases among files

Databases lie in a tree of folders and plain files. A path names a place in the tree; the folder
that a database is to lie in is made when it is missing.

## Main definitions

* `Location` — places in the tree, `Files` — what lies at them.
* `Files.locate` — the place that a path names, `Files.parent?` — the path of the folder above.
* `Files.makeFolder` — makes folders along a path, `Files.Obstacle` — what may be in the way.
* `Files.openAt`, `Files.keep` — opens the database at a path, and puts it back.
-/

namespace Reroute

/-- The names on the way from the root. -/
abbrev Location := List String

/-- What lies in a tree of files. Whatever is above something is a folder. -/
structure Files where
  /-- Files that hold no database. -/
  plain : List Location
  folders : List Location
  databases : Table Location Database

namespace Files

def isFile (f : Files) (l : Location) : Bool :=
  f.plain.contains l || (f.databases.get? l).isSome

/-- The first place lies above the second one. -/
def isAbove (l m : Location) : Bool := l.isPrefixOf m && l ≠ m

def isFolder (f : Files) (l : Location) : Bool :=
  l = [] || f.folders.contains l ||
    (f.plain ++ f.folders ++ f.databases.map Prod.fst).any (isAbove l)

/-! ## Paths -/

/-- One name of a path. -/
def step (l : Location) (name : String) : Location :=
  if name = "" ∨ name = "." then l else if name = ".." then l.dropLast else l ++ [name]

/-- The names of a path. -/
def names (path : String) : List String := path.splitOn "/"

/-- Where a path begins: at the root, or else in the current folder. -/
def origin (here : Location) (path : String) : Location :=
  if path.startsWith "/" then [] else here

/-- The place that a path names, seen from the current folder. -/
def locate (here : Location) (path : String) : Location :=
  (names path).foldl step (origin here path)

/-- Drops names at the end that lead nowhere, but not the first one. -/
def dropIdle : List String → List String
  | [] => []
  | n :: ns => n :: (ns.reverse.dropWhile fun m => m = "" || m = ".").reverse

/-- The path of the folder above; the root and the empty path have none. -/
def parent? (path : String) : Option String :=
  match dropIdle (names path) with
  | [] | [""] => none
  | [_] => some ""
  | ns =>
    match dropIdle ns.dropLast with
    | [""] => some "/"
    | ns => some ("/".intercalate ns)

/-! ## Folders -/

/-- What is in the way of a folder. -/
inductive Obstacle where
  /-- A file has its place. -/
  | taken
  /-- The path leads through a file. -/
  | throughFile
  deriving DecidableEq

/-- What is said about an obstacle. -/
def Obstacle.message : Obstacle → String
  | .taken => "File exists (os error 17)"
  | .throughFile => "Not a directory (os error 20)"

/-- Follows the names of a path as long as they do not lead through a file. -/
def walk (f : Files) : Location → List String → Except Obstacle Location
  | l, [] => if f.isFile l then .error .taken else .ok l
  | l, n :: ns => if f.isFile l then .error .throughFile else walk f (step l n) ns

/-- Makes the folders along a path. -/
def makeFolder (f : Files) (here : Location) (path : String) : Except Obstacle Files :=
  if path = "" then .ok f
  else match f.walk (origin here path) (names path) with
    | .ok l => .ok { f with folders := l :: f.folders }
    | .error e => .error e

/-! ## Databases -/

/-- Paths of databases that vanish with their connection. -/
def isTransient (path : String) : Bool := path = "" || path = ":memory:"

/-- Opens the database at a path; a missing one is empty. -/
def openAt (f : Files) (here : Location) (path : String) : Except StorageError Session :=
  let l := locate here path
  if isTransient path then Session.open? .empty
  else if f.isFolder l then .error (.cannotOpen path)
  else if f.plain.contains l then .error .notADatabase
  else Session.open? ((f.databases.get? l).getD .empty)

/-- Puts the database at a path. -/
def keep (f : Files) (here : Location) (path : String) (d : Database) : Files :=
  if isTransient path then f else { f with databases := f.databases.put (locate here path) d }

end Files

end Reroute
