import Reroute.Storage.Database

/-!
# Databases in a file

A database is written to a file as JSON: its rows as arrays of area, key and text, a blob as an
array of its bytes, and the number of its commits.

## Main definitions

* `Database.encode` — the value that is written, `Database.decode?` — the database of a value.
* `Database.ofBytes?` — the database in a file; an empty file holds an empty one.
-/

namespace Reroute

namespace Cell

def encode : Cell → Json
  | .text s => .string s
  | .blob bytes => .array (bytes.map fun b => .number (.natural b.toUInt64))

/-- A number of a byte. -/
def byte? : Json → Option UInt8
  | .number (.natural n) => if n < 256 then some n.toUInt8 else none
  | _ => none

def decode? : Json → Option Cell
  | .string s => some (.text s)
  | .array items => (items.mapM byte?).map .blob
  | _ => none

theorem byte?_natural (b : UInt8) : byte? (.number (.natural b.toUInt64)) = some b := by
  have h : b.toUInt64 < 256 := by
    rw [UInt64.lt_iff_toNat_lt]
    simpa using b.toNat_lt
  simp [byte?, h]

theorem mapM_byte? (bytes : List UInt8) :
    (bytes.map fun b => Json.number (.natural b.toUInt64)).mapM byte? = some bytes := by
  induction bytes with
  | nil => rfl
  | cons b bs ih => simp [byte?_natural, ih]

/-- A cell that was written is read back. -/
theorem decode?_encode (c : Cell) : decode? c.encode = some c := by
  cases c with
  | text s => rfl
  | blob bytes => simp only [encode, decode?, mapM_byte?, Option.map_some]

end Cell

namespace Database

def encodeRow (r : (String × String) × Cell) : Json :=
  .array [.string r.1.1, .string r.1.2, r.2.encode]

def decodeRow? : Json → Option ((String × String) × Cell)
  | .array [.string area, .string key, c] => (Cell.decode? c).map fun c => ((area, key), c)
  | _ => none

def encode (d : Database) : Json :=
  .object [("commits", .number (.natural (UInt64.ofNat d.commits))),
    ("rows", .array (d.rows.map encodeRow))]

def decode? (v : Json) : Option Database := do
  match ← v.get? "commits", ← v.get? "rows" with
  | .number (.natural n), .array items =>
    let rows ← items.mapM decodeRow?
    if h : Table.Keyed rows then return ⟨rows, n.toNat, h⟩ else none
  | _, _ => none

theorem decodeRow?_encodeRow (r : (String × String) × Cell) :
    decodeRow? (encodeRow r) = some r := by
  simp [encodeRow, decodeRow?, Cell.decode?_encode]

theorem mapM_decodeRow? (rows : List ((String × String) × Cell)) :
    (rows.map encodeRow).mapM decodeRow? = some rows := by
  induction rows with
  | nil => rfl
  | cons r rs ih => simp [decodeRow?_encodeRow, ih]

/-- A database that was written is read back, as long as its commits fit a word. -/
theorem decode?_encode (d : Database) (h : d.commits < 2 ^ 64) : decode? d.encode = some d := by
  have : (UInt64.ofNat d.commits).toNat = d.commits := by
    rw [UInt64.toNat_ofNat']
    exact Nat.mod_eq_of_lt h
  have hc : d.encode.get? "commits" = some (.number (.natural (UInt64.ofNat d.commits))) := rfl
  have hr : d.encode.get? "rows" = some (.array (d.rows.map encodeRow)) := rfl
  simp only [decode?, hc, hr, bind, Option.bind, mapM_decodeRow?, this, d.keyed, dif_pos]
  rfl

/-- The database in a file. -/
def ofBytes? (bytes : ByteArray) : Option Database :=
  if bytes.isEmpty then some empty
  else (String.fromUTF8? bytes).bind fun text => (Json.read? text).bind decode?

end Database

end Reroute
