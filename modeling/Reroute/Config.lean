import Reroute.Toml.Reader

/-!
# Configuration

Where the database is, whether there is a shared area, and how often other connections are polled.
All of it may be left out of the file, and so may the file.

## Main definitions

* `Config` — the configuration, `Config.standard` — that of a missing file.
* `Config.ofToml?` — the configuration of a document.
* `Config.Found`, `Config.load` — what is found in the place of the file, and what it says.
-/

namespace Reroute

/-- The configuration. -/
structure Config where
  databasePath : Option String
  syncEnabled : Bool
  pollMillis : UInt64
  deriving DecidableEq

namespace Config

/-- What holds where the file says nothing. -/
def standard : Config := ⟨none, true, 500⟩

/-- The path of the database; by default it lies in the folder of the user's data. -/
def databasePathIn (c : Config) (dataFolder : String) : String :=
  c.databasePath.getD (dataFolder ++ "/detour/storage.db")

/-- The time between two polls in milliseconds, at least one. -/
def pollInterval (c : Config) : UInt64 := max c.pollMillis 1

/-! ## Sections -/

/-- A field of a section, which may be missing. A section is a table, or an array of its fields in
order; a date counts as a table of other fields. What is none of these is no section. -/
def field? (name : String) (position : Nat) : Toml → Option (Option Toml)
  | .table _ es => some (Table.get? es name)
  | .array items => some items[position]?
  | .tables items => some (items[position]?.map (.table .header))
  | .moment => some none
  | _ => none

/-- The value of a field, or the default of a missing one. -/
def valueOr (default : α) (decode : Toml → Option α) (field : Option Toml) : Option α :=
  match field with
  | none => some default
  | some v => decode v

def text? : Toml → Option String
  | .string s => some s
  | _ => none

def truth? : Toml → Option Bool
  | .boolean b => some b
  | _ => none

def count? : Toml → Option UInt64
  | .integer (.ofNat n) => some (UInt64.ofNat n)
  | _ => none

/-- Takes the path and the shared area from the section on storage. -/
def withStorage (c : Config) (v : Toml) : Option Config := do
  let path ← field? "database_path" 0 v
  let sync ← field? "sync_enabled" 1 v
  return { c with
    databasePath := ← valueOr c.databasePath (fun v => (text? v).map some) path
    syncEnabled := ← valueOr c.syncEnabled truth? sync }

/-- Takes the time between polls from the section on watching. -/
def withWatch (c : Config) (v : Toml) : Option Config := do
  let millis ← field? "poll_interval_ms" 0 v
  return { c with pollMillis := ← valueOr c.pollMillis count? millis }

/-- A section, if there is one, applied to a configuration. -/
def withSection (es : Toml.Entries) (name : String) (apply : Config → Toml → Option Config)
    (c : Config) : Option Config :=
  match es.get? name with
  | none => some c
  | some v => apply c v

/-- The configuration of a document. -/
def ofToml? (es : Toml.Entries) : Option Config := do
  withSection es "watch" withWatch (← withSection es "storage" withStorage standard)

/-! ## Files -/

/-- Why there is no configuration. -/
inductive Error where
  | unreadable
  | invalid
  deriving DecidableEq

/-- What is found in the place of the file. -/
inductive Found where
  | missing
  | folder
  | file (bytes : ByteArray)

/-- The configuration that is found. -/
def load : Found → Except Error Config
  | .missing => .ok standard
  | .folder => .error .unreadable
  | .file bytes =>
    match String.fromUTF8? bytes with
    | none => .error .unreadable
    | some text =>
      match (Toml.read? text).bind ofToml? with
      | some c => .ok c
      | none => .error .invalid

end Config

end Reroute
