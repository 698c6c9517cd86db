import Reroute.Double.Read
import Reroute.Storage.Table

/-!
# TOML values

The values of a TOML document, and how tables grow while a document is read. A table remembers how
it came to be, for that decides who may still add to it.

## Main definitions

* `Toml` — the values, `Toml.Origin` — how a table came to be.
* `Toml.descend` — a change deep inside a table.
* `Toml.put`, `Toml.declare`, `Toml.declareItem` — what an entry, a header, and a header in double
  brackets add to a table.
-/

namespace Reroute

/-- How a table came to be. -/
inductive Toml.Origin where
  /-- A header named a table below it. -/
  | implied
  /-- A dotted key named an entry of it. -/
  | dotted
  /-- It has a header of its own. -/
  | header
  /-- It was written between braces. -/
  | inline
  deriving DecidableEq

/-- A TOML value. -/
inductive Toml where
  | string (s : String)
  | integer (n : Int)
  | float (x : Double)
  | boolean (b : Bool)
  /-- A date, a time, or both. -/
  | moment
  | array (items : List Toml)
  | table (origin : Toml.Origin) (entries : List (String × Toml))
  /-- The tables of headers in double brackets. -/
  | tables (items : List (List (String × Toml)))

namespace Toml

instance : Inhabited Toml := ⟨.moment⟩

/-- The entries of a table. -/
abbrev Entries := Table String Toml

/-- A key of one or more parts: the last one is a name in the table that the others lead to. -/
structure Key where
  path : List String
  name : String
  deriving DecidableEq

/-- All parts of a key. -/
def Key.parts (k : Key) : List String := k.path ++ [k.name]

/-- Whether a key may lead through a table: no key leads into braces, and a dotted one not into a
table with a header. -/
def Origin.allows (o : Origin) (dotted : Bool) : Bool :=
  match o with
  | .inline => false
  | .header => !dotted
  | .implied | .dotted => true

/-- Changes the table at the end of a path. Tables that are missing on the way are made; in an
array of tables the way leads through the last one. -/
def descend (dotted : Bool) (change : Origin → Entries → Option Entries) :
    List String → Origin → Entries → Option Entries
  | [], o, es => change o es
  | k :: ks, _, es =>
    match es.get? k with
    | none =>
      let o := if dotted then .dotted else .implied
      (descend dotted change ks o []).map fun sub => es.put k (.table o sub)
    | some (.table o sub) =>
      if o.allows dotted then
        (descend dotted change ks o sub).map fun sub => es.put k (.table o sub)
      else none
    | some (.tables items) =>
      match items.getLast? with
      | some sub =>
        (descend dotted change ks .header sub).map fun sub =>
          es.put k (.tables (items.dropLast ++ [sub]))
      | none => none
    | some _ => none

/-- Adds an entry under a key that may be dotted. No key is given twice, and only a table that
dotted keys made is added to through one. -/
def put (k : Key) (v : Toml) (es : Entries) : Option Entries :=
  descend true (fun o es =>
    if (k.path = [] ∨ o = .dotted) ∧ (es.get? k.name).isNone then some (es.put k.name v)
    else none) k.path .header es

/-- Adds the table of a header, or gives one to a table that other headers implied. -/
def declare (k : Key) (es : Entries) : Option Entries :=
  descend false (fun _ es =>
    match es.get? k.name with
    | none => some (es.put k.name (.table .header []))
    | some (.table .implied sub) => some (es.put k.name (.table .header sub))
    | some _ => none) k.path .header es

/-- Adds the table of a header in double brackets at the end of its array. -/
def declareItem (k : Key) (es : Entries) : Option Entries :=
  descend false (fun _ es =>
    match es.get? k.name with
    | none => some (es.put k.name (.tables [[]]))
    | some (.tables items) => some (es.put k.name (.tables (items ++ [[]])))
    | some _ => none) k.path .header es

/-- The table between braces that holds some entries. -/
def ofPairs? (pairs : List (Key × Toml)) : Option Toml :=
  (pairs.foldlM (fun es (k, v) => put k v es) []).map (.table .inline)

end Toml

end Reroute
