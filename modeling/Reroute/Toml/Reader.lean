import Reroute.Toml.Quoted
import Reroute.Toml.Scalar

/-!
# Reading TOML text

A document is a list of statements: entries, headers, and headers in double brackets. Reading takes
them off the text one by one, and the table of the document is what they add to an empty one.

## Main definitions

* `Toml.readKey?`, `Toml.readValue?` — the key, and the value, at the front of a text.
* `Toml.Statement` — the statements, `Toml.readStatements?` — those of a text.
* `Toml.ofStatements?` — the table of some statements, `Toml.read?` — of a text.
-/

namespace Reroute.Toml

/-- How many parts a key may have, and how deeply brackets and braces may be nested. -/
def maxDepth : Nat := 79

/-! ## Keys -/

/-- A character of a key without quotes. -/
def isBare (c : Char) : Bool := c.isAlphanum || c = '-' || c = '_'

/-- One part of a key. -/
def readKeyPart? : List Char → Option (List Char × List Char)
  | '"' :: rest => readBasic? rest
  | '\'' :: rest => readLiteral? rest
  | cs =>
    match cs.takeWhile isBare with
    | [] => none
    | word => some (word, cs.dropWhile isBare)

/-- A key of at most so many parts with points between. -/
def readKey? : Nat → List Char → Option (Key × List Char)
  | 0, _ => none
  | n + 1, cs => do
    let (part, rest) ← readKeyPart? (skipSpaces cs)
    match skipSpaces rest with
    | '.' :: rest =>
      let (k, rest) ← readKey? n rest
      return ({ k with path := String.ofList part :: k.path }, rest)
    | rest => return (⟨[], String.ofList part⟩, rest)

/-! ## Values -/

mutual

/-- The value at the front of a text, and what follows it. The first number bounds the steps, the
second one the nesting. -/
def readValue? : Nat → Nat → List Char → Option (Toml × List Char)
  | 0, _, _ => none
  | fuel + 1, depth, cs =>
    match cs with
    | '[' :: rest =>
      match depth with
      | 0 => none
      | depth + 1 =>
        match skipLayout false rest with
        | ']' :: rest => some (.array [], rest)
        | rest => (readItems? fuel depth rest).map fun (vs, rest) => (.array vs, rest)
    | '\x7b' :: rest =>
      match depth with
      | 0 => none
      | depth + 1 =>
        match skipSpaces rest with
        | '\x7d' :: rest => some (.table .inline [], rest)
        | rest => do
          let (pairs, rest) ← readPairs? fuel depth rest
          return (← ofPairs? pairs, rest)
    | c :: _ =>
      if c = '"' ∨ c = '\'' then
        (readQuoted? cs).map fun (s, rest) => (.string (String.ofList s), rest)
      else readScalar? cs
    | [] => none

/-- The items of an array from one of them on, up to the closing bracket. A comma may follow the
last one. -/
def readItems? : Nat → Nat → List Char → Option (List Toml × List Char)
  | 0, _, _ => none
  | fuel + 1, depth, cs =>
    match readValue? fuel depth cs with
    | none => none
    | some (v, rest) =>
      match skipLayout false rest with
      | ',' :: rest =>
        match skipLayout false rest with
        | ']' :: rest => some ([v], rest)
        | rest => (readItems? fuel depth rest).map fun (vs, rest) => (v :: vs, rest)
      | ']' :: rest => some ([v], rest)
      | _ => none

/-- The entries between braces from one of them on, up to the closing brace. -/
def readPairs? : Nat → Nat → List Char → Option (List (Key × Toml) × List Char)
  | 0, _, _ => none
  | fuel + 1, depth, cs =>
    match readKey? maxDepth cs with
    | some (k, '=' :: rest) =>
      match readValue? fuel depth (skipSpaces rest) with
      | none => none
      | some (v, rest) =>
        match skipSpaces rest with
        | ',' :: rest => (readPairs? fuel depth rest).map fun (ps, rest) => ((k, v) :: ps, rest)
        | '\x7d' :: rest => some ([(k, v)], rest)
        | _ => none
    | _ => none

end

/-! ## Documents -/

/-- What a line of a document says. -/
inductive Statement where
  | entry (k : Key) (v : Toml)
  | header (k : Key)
  | itemHeader (k : Key)

/-- The statement at the front of a text, and the lines that follow it. -/
def readStatement? (cs : List Char) : Option (Statement × List Char) :=
  match cs with
  | '[' :: '[' :: rest =>
    match readKey? maxDepth rest with
    | some (k, ']' :: ']' :: rest) => (lineEnd? rest).map fun rest => (.itemHeader k, rest)
    | _ => none
  | '[' :: rest =>
    match readKey? maxDepth rest with
    | some (k, ']' :: rest) => (lineEnd? rest).map fun rest => (.header k, rest)
    | _ => none
  | cs =>
    match readKey? maxDepth cs with
    | some (k, '=' :: rest) => do
      let (v, rest) ← readValue? (2 * rest.length + 2) maxDepth (skipSpaces rest)
      return (.entry k v, ← lineEnd? rest)
    | _ => none

/-- The statements of a text; the number bounds its lines. -/
def readStatements? : Nat → List Char → Option (List Statement)
  | 0, _ => none
  | fuel + 1, cs =>
    match skipSpaces cs with
    | [] => some []
    | cs =>
      match lineEnd? cs with
      | some rest => readStatements? fuel rest
      | none => do
        let (s, rest) ← readStatement? cs
        return s :: (← readStatements? fuel rest)

/-- Adds a statement to a document; the path leads to the table that entries belong to. -/
def add (d : Entries × List String) : Statement → Option (Entries × List String)
  | .entry k v => (descend false (fun _ es => put k v es) d.2 .header d.1).map fun es => (es, d.2)
  | .header k => (declare k d.1).map fun es => (es, k.parts)
  | .itemHeader k => (declareItem k d.1).map fun es => (es, k.parts)

/-- The table that statements make. -/
def ofStatements? (statements : List Statement) : Option Entries :=
  (statements.foldlM add ([], [])).map Prod.fst

/-- The table of a document. A mark of the byte order may stand before it. -/
def read? (text : String) : Option Entries :=
  let cs := match text.toList with
    | '\uFEFF' :: cs => cs
    | cs => cs
  (readStatements? (cs.length + 1) cs).bind ofStatements?

end Reroute.Toml
