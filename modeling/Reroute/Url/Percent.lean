import Reroute.Text.Hex

/-!
# Percent signs

Bytes that cannot stand in a part of a URL are written as a percent sign and two digits. Which
ASCII characters these are depends on the part; controls and all other characters always are.

## Main definitions

* `Percent.encode` — a text with some characters written as bytes.
* `Percent.decode?` — a text with all its percent signs undone, if the bytes spell a text.
-/

namespace Reroute.Percent

/-- A byte as a percent sign and two digits. -/
def byteChars (b : UInt8) : List Char :=
  ['%', Text.hexDigitUpper (b.toNat / 16), Text.hexDigitUpper (b.toNat % 16)]

/-- Controls and characters beyond ASCII are always written as bytes. -/
def isUnsafe (c : Char) : Bool := c.toNat < 0x20 || 0x7F ≤ c.toNat

/-- A text in which the characters of `special`, and the unsafe ones, are written as bytes. -/
def encode (special : List Char) (cs : List Char) : List Char :=
  cs.flatMap fun c =>
    if isUnsafe c || c ∈ special then (String.utf8EncodeChar c).flatMap byteChars else [c]

/-- The bytes of a text, percent signs with two digits undone. -/
def bytes : List Char → List UInt8
  | '%' :: a :: b :: cs =>
    match Text.hexDigit? a, Text.hexDigit? b with
    | some x, some y => UInt8.ofNat (16 * x + y) :: bytes cs
    | _, _ => '%'.toNat.toUInt8 :: bytes (a :: b :: cs)
  | c :: cs => String.utf8EncodeChar c ++ bytes cs
  | [] => []

/-- The text that the bytes of a text spell. -/
def decode? (cs : List Char) : Option (List Char) :=
  if '%' ∈ cs then (String.fromUTF8? ⟨(bytes cs).toArray⟩).map String.toList else some cs

end Reroute.Percent
