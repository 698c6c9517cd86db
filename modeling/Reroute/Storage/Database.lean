import Reroute.Json.Printer
import Reroute.Json.Reader
import Reroute.Storage.Feed
import Reroute.Storage.Table

/-!
# Storage in a database

The rows of a database hold texts under two names, area and key. Several connections may use one
database. Each keeps a snapshot of the texts it knows, and announces its own writes at once; what
others committed is announced by a poll, which compares the rows with the snapshot.

## Main definitions

* `Database` — rows and the number of commits.
* `Connection` — snapshot, feed, own commits, and the version noted by the last poll.
* `Session` — a connection at its database: `Session.open?`, `Session.get`, `Session.set`,
  `Session.poll`. Writing and polling are made of the parts that others may come between:
  `Session.commit`, `Connection.remember`, `Connection.announce`; `Session.look`,
  `Connection.settle`, `Connection.announceAll`.
-/

namespace Reroute

/-- What a row holds. -/
inductive Cell where
  | text (s : String)
  | blob (bytes : List UInt8)
  deriving DecidableEq

/-- The rows of a database by the names of area and key, which are its primary key, and the number
of commits. -/
structure Database where
  rows : Table (String × String) Cell
  commits : Nat
  keyed : rows.Keyed

namespace Database

def empty : Database := ⟨[], 0, Table.keyed_nil⟩

/-- The row of a place. -/
def rowOf (p : Place) : String × String := (p.area.name, p.key)

/-- A commit that puts a row. -/
def upsert (d : Database) (row : String × String) (c : Cell) : Database :=
  ⟨d.rows.put row c, d.commits + 1, d.keyed.put row c⟩

/-- A commit that takes a row out; nothing is committed if there is none. -/
def delete (d : Database) (row : String × String) : Database :=
  if (d.rows.get? row).isSome then ⟨d.rows.erase row, d.commits + 1, d.keyed.erase row⟩ else d

/-- The texts of all rows; a row without a text stops the reading. -/
def texts? : Table (String × String) Cell → Except StorageError (Table (String × String) String)
  | [] => .ok []
  | (row, .text s) :: rows =>
    match texts? rows with
    | .ok ts => .ok ((row, s) :: ts)
    | .error e => .error e
  | (_, .blob _) :: _ => .error .notAText

/-- The texts of the known areas. Rows of other areas are passed over, though they are read. -/
def entries? (d : Database) : Except StorageError (Table Place String) :=
  match texts? d.rows with
  | .ok ts => .ok <| ts.filterMap fun ((area, key), s) =>
      (Area.ofName? area).map fun area => (⟨area, key⟩, s)
  | .error e => .error e

end Database

/-- What one connection knows. -/
structure Connection where
  snapshot : Table Place String
  noted : Nat
  own : Nat
  feed : Feed

namespace Connection

/-- Puts a text into the snapshot; returns the one before. -/
def remember (c : Connection) (p : Place) (text : String) : Option String × Connection :=
  (c.snapshot.get? p, { c with snapshot := c.snapshot.put p text })

/-- Announces an own write, unless the text was known. -/
def announce (c : Connection) (p : Place) (v : Json) (text : String) (old : Option String) :
    Connection :=
  if old = some text then c
  else { c with feed := c.feed.publish ⟨p, old.bind Json.read?, some v⟩ }

/-- How an entry differs from the snapshot, if it does. -/
def changeOf? (snapshot : Table Place String) (p : Place) (text : String) : Option Change :=
  if snapshot.get? p = some text then none
  else some ⟨p, (snapshot.get? p).bind Json.read?, Json.read? text⟩

/-- All differences: entries that are new or other, and entries that are gone. -/
def differences (snapshot current : Table Place String) : List Change :=
  current.filterMap (fun (p, text) => changeOf? snapshot p text) ++
  snapshot.filterMap fun (p, text) =>
    if (current.get? p).isSome then none else some ⟨p, Json.read? text, none⟩

/-- The differences in the order of their places. -/
def diff (snapshot current : Table Place String) : List Change :=
  (differences snapshot current).mergeSort fun a b => a.place.le b.place

/-- Replaces the snapshot; returns the differences. -/
def settle (c : Connection) (current : Table Place String) : List Change × Connection :=
  (diff c.snapshot current, { c with snapshot := current })

/-- Announces the differences that a poll found. -/
def announceAll (c : Connection) (cs : List Change) : Connection :=
  { c with feed := c.feed.publishAll cs }

end Connection

/-- A connection at its database. -/
structure Session where
  database : Database
  connection : Connection

namespace Session

/-- A number that changes whenever another connection commits. -/
def version (d : Database) (own : Nat) : Nat := d.commits - own

/-- A new connection; its first snapshot is what the database holds. -/
def open? (d : Database) : Except StorageError Session :=
  match d.entries? with
  | .ok entries => .ok ⟨d, ⟨entries, version d 0, 0, .empty⟩⟩
  | .error e => .error e

/-- The value of a place, read from its row. -/
def get (s : Session) (p : Place) : Except StorageError (Option Json) :=
  match s.database.rows.get? (Database.rowOf p) with
  | none => .ok none
  | some (.blob _) => .error .notAText
  | some (.text text) =>
    match Json.read? text with
    | some v => .ok (some v)
    | none => .error .notJson

/-- Commits a text of one's own. -/
def commit (s : Session) (p : Place) (text : String) : Session where
  database := s.database.upsert (Database.rowOf p) (.text text)
  connection := { s.connection with own := s.connection.own + 1 }

/-- Writes a value and announces it. -/
def set (s : Session) (p : Place) (v : Json) : Session :=
  let s := s.commit p v.print
  let (old, c) := s.connection.remember p v.print
  { s with connection := c.announce p v v.print old }

/-- Notes the version and reads the rows, if others have committed since the last poll. The version
stays noted when reading fails. -/
def look (s : Session) : Except StorageError (Option (Table Place String)) × Session :=
  let v := version s.database s.connection.own
  if s.connection.noted = v then (.ok none, s)
  else
    let s := { s with connection := { s.connection with noted := v } }
    match s.database.entries? with
    | .ok entries => (.ok (some entries), s)
    | .error e => (.error e, s)

/-- Announces what others committed since the last poll; returns the number of changes. -/
def poll (s : Session) : Except StorageError Nat × Session :=
  match s.look with
  | (.error e, s) => (.error e, s)
  | (.ok none, s) => (.ok 0, s)
  | (.ok (some entries), s) =>
    let (changes, c) := s.connection.settle entries
    (.ok changes.length, { s with connection := c.announceAll changes })

/-- Replaces the feed of the connection. -/
def withFeed (s : Session) (feed : Feed) : Session :=
  { s with connection := { s.connection with feed } }

/-- Another connection commits a change of the database. -/
def withDatabase (s : Session) (d : Database) : Session := { s with database := d }

instance : Medium Session where
  read := get
  write s p v := .ok (s.set p v)

end Session

end Reroute
