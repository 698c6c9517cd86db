import Reroute.Json.Basic

/-!
# Storage

Values are kept under keys in two areas, one shared between devices and one local. Every change of
a value is announced.

## Main definitions

* `Area`, `Place` — the areas, and a key in one of them.
* `Change` — what an announcement says.
* `StorageError` — why reading or writing failed.
* `Medium` — what can be read and written.
-/

namespace Reroute

/-- The areas of a storage. -/
inductive Area where
  | sync
  | device
  deriving DecidableEq

namespace Area

/-- The name under which an area is stored. -/
def name : Area → String
  | .sync => "sync"
  | .device => "local"

/-- The area of a name. -/
def ofName? (s : String) : Option Area :=
  if s = "sync" then some .sync else if s = "local" then some .device else none

/-- The area of a stored value: its name, or an object that has the name as its only key, with
nothing under it. -/
def decode? : Json → Option Area
  | .string s => ofName? s
  | .object [(s, .null)] => ofName? s
  | _ => none

@[simp] theorem ofName?_name (a : Area) : ofName? a.name = some a := by cases a <;> decide

end Area

/-- A key in an area. -/
structure Place where
  area : Area
  key : String
  deriving DecidableEq

/-- The order of places: by the names of their areas, then by their keys. -/
def Place.le (p q : Place) : Bool :=
  if p.area = q.area then p.key ≤ q.key else p.area.name ≤ q.area.name

/-- An announcement: the value of a place before and after, if there is one. -/
structure Change where
  place : Place
  old : Option Json
  new : Option Json
  deriving DecidableEq

/-- Why reading or writing failed. -/
inductive StorageError where
  /-- The area cannot be read. -/
  | unavailable
  /-- The area cannot be written. -/
  | quotaExceeded
  /-- No database can be opened at the path. -/
  | cannotOpen (path : String)
  /-- The file holds something else than a database. -/
  | notADatabase
  /-- A row holds bytes instead of a text. -/
  | notAText
  /-- A text is not JSON. -/
  | notJson
  deriving DecidableEq

namespace StorageError

/-- The failure is one of writing. -/
def isWrite : StorageError → Bool
  | .quotaExceeded | .notADatabase => true
  | _ => false

/-- What went wrong. -/
def detail : StorageError → String
  | .unavailable => "storage area unavailable"
  | .quotaExceeded => "quota exceeded"
  | .cannotOpen path => "unable to open database file: " ++ path
  | .notADatabase => "file is not a database"
  | .notAText => "Invalid column type Blob at index: 2, name: value"
  | .notJson => "invalid JSON"

def message (e : StorageError) : String :=
  (if e.isWrite then "storage write failed: " else "storage read failed: ") ++ e.detail

end StorageError

/-- What can be read and written; a write that fails changes nothing. -/
class Medium (σ : Type) where
  read : σ → Place → Except StorageError (Option Json)
  write : σ → Place → Json → Except StorageError σ

end Reroute
