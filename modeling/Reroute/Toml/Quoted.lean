import Reroute.Text.Hex
import Reroute.Toml.Layout

/-!
# Strings in TOML

Strings stand between quotes, in which a backslash escapes, or between apostrophes, in which
nothing does. Three of either hold several lines, and a newline after the opening is dropped.

## Main definitions

* `Toml.readBasic?`, `Toml.readLiteral?` — the string after its opening.
* `Toml.readBasicLines?`, `Toml.readLiteralLines?` — the same for several lines.
* `Toml.readQuoted?` — any string.
-/

namespace Reroute.Toml

/-- The character of a backslash and one letter. -/
def unescape? : Char → Option Char
  | '"' => some '"'
  | '\\' => some '\\'
  | 'b' => some (Char.ofNat 8)
  | 'f' => some (Char.ofNat 12)
  | 'n' => some '\n'
  | 'r' => some '\r'
  | 't' => some '\t'
  | _ => none

/-- The character whose number hexadecimal digits spell. -/
def charOf? (digits : List Char) : Option Char :=
  if digits.all (fun c => (Text.hexDigit? c).isSome) && (Text.hexValue digits).isValidChar then
    some (Char.ofNat (Text.hexValue digits))
  else none

/-- Puts a character before the string that the rest of a text holds. -/
def consChar (c : Char) (read : Option (List Char × List Char)) :
    Option (List Char × List Char) :=
  read.map fun (s, rest) => (c :: s, rest)

/-- The string on one line after its opening quote, and what follows the closing one. -/
def readBasic? : List Char → Option (List Char × List Char)
  | [] => none
  | '"' :: rest => some ([], rest)
  | '\\' :: 'u' :: a :: b :: c :: d :: rest =>
    match charOf? [a, b, c, d] with
    | some ch => consChar ch (readBasic? rest)
    | none => none
  | '\\' :: 'U' :: a :: b :: c :: d :: e :: f :: g :: h :: rest =>
    match charOf? [a, b, c, d, e, f, g, h] with
    | some ch => consChar ch (readBasic? rest)
    | none => none
  | '\\' :: c :: rest =>
    match unescape? c with
    | some ch => consChar ch (readBasic? rest)
    | none => none
  | c :: rest => if isPlain c && c ≠ '\\' then consChar c (readBasic? rest) else none

/-- The string on one line after its opening apostrophe, and what follows the closing one. -/
def readLiteral? : List Char → Option (List Char × List Char)
  | [] => none
  | '\'' :: rest => some ([], rest)
  | c :: rest => if isPlain c then consChar c (readLiteral? rest) else none

/-- The string on several lines after its opening quotes. A backslash at the end of a line joins
it with the next character that is not blank; up to two quotes may stand before the closing
ones. -/
def readBasicLines? (skipping : Bool) : List Char → Option (List Char × List Char)
  | [] => none
  | '"' :: '"' :: '"' :: '"' :: '"' :: rest => some (['"', '"'], rest)
  | '"' :: '"' :: '"' :: '"' :: rest => some (['"'], rest)
  | '"' :: '"' :: '"' :: rest => some ([], rest)
  | '\\' :: 'u' :: a :: b :: c :: d :: rest =>
    match charOf? [a, b, c, d] with
    | some ch => consChar ch (readBasicLines? false rest)
    | none => none
  | '\\' :: 'U' :: a :: b :: c :: d :: e :: f :: g :: h :: rest =>
    match charOf? [a, b, c, d, e, f, g, h] with
    | some ch => consChar ch (readBasicLines? false rest)
    | none => none
  | '\\' :: c :: rest =>
    match unescape? c with
    | some ch => consChar ch (readBasicLines? false rest)
    | none =>
      if (newline? (skipSpaces (c :: rest))).isSome then readBasicLines? true (c :: rest) else none
  | '\r' :: '\n' :: rest =>
    if skipping then readBasicLines? true rest else consChar '\n' (readBasicLines? false rest)
  | c :: rest =>
    if skipping && (isSpace c || c = '\n') then readBasicLines? true rest
    else if (isPlain c && c ≠ '\\') || c = '\n' then consChar c (readBasicLines? false rest)
    else none

/-- The string on several lines after its opening apostrophes. -/
def readLiteralLines? : List Char → Option (List Char × List Char)
  | [] => none
  | '\'' :: '\'' :: '\'' :: '\'' :: '\'' :: rest => some (['\'', '\''], rest)
  | '\'' :: '\'' :: '\'' :: '\'' :: rest => some (['\''], rest)
  | '\'' :: '\'' :: '\'' :: rest => some ([], rest)
  | '\r' :: '\n' :: rest => consChar '\n' (readLiteralLines? rest)
  | c :: rest => if isPlain c || c = '\n' then consChar c (readLiteralLines? rest) else none

/-- Drops a newline at the front. -/
def dropNewline (cs : List Char) : List Char := (newline? cs).getD cs

/-- The string at the front of a text, if there is one, and what follows it. -/
def readQuoted? : List Char → Option (List Char × List Char)
  | '"' :: '"' :: '"' :: rest => readBasicLines? false (dropNewline rest)
  | '"' :: rest => readBasic? rest
  | '\'' :: '\'' :: '\'' :: rest => readLiteralLines? (dropNewline rest)
  | '\'' :: rest => readLiteral? rest
  | _ => none

end Reroute.Toml
