import Reroute.Text.Hex
import Reroute.Toml.Basic

/-!
# Words in TOML

Values without quotes or brackets: truth values, whole numbers, floats, dates and times.

## Main definitions

* `Toml.isGrouped` — digits with single underscores between.
* `Toml.integer?`, `Toml.float?`, `Toml.isDate`, `Toml.isClock` — the kinds of words.
* `Toml.readScalar?` — the value of the word at the front of a text.
-/

namespace Reroute.Toml

/-- Digits, with underscores between some. -/
def isGrouped (isDigit : Char → Bool) : List Char → Bool
  | [] => false
  | [c] => isDigit c
  | c :: '_' :: rest => isDigit c && isGrouped isDigit rest
  | c :: rest => isDigit c && isGrouped isDigit rest

/-- A word without its underscores. -/
def ungrouped (cs : List Char) : List Char := cs.filter (· ≠ '_')

/-! ## Numbers -/

/-- A digit below a base of at most sixteen. -/
def isDigitIn (base : Nat) (c : Char) : Bool := (Text.hexDigit? c).any (· < base)

/-- The natural that digits stand for. -/
def valueIn (base : Nat) (cs : List Char) : Nat :=
  cs.foldl (fun n c => base * n + (Text.hexDigit? c).getD 0) 0

/-- Decimal digits without a leading zero. -/
def isWhole (cs : List Char) : Bool :=
  isGrouped Char.isDigit cs && (cs.head? ≠ some '0' || cs.length = 1)

/-- A whole number that fits 64 bits with its sign. -/
def inRange (n : Int) : Option Int := if -(2 ^ 63) ≤ n ∧ n < 2 ^ 63 then some n else none

/-- A whole number with digits of a base. -/
def based? (base : Nat) (cs : List Char) : Option Int :=
  if isGrouped (isDigitIn base) cs then inRange (valueIn base (ungrouped cs)) else none

/-- The whole number of a word: signed decimal digits, or digits of another base after its mark. -/
def integer? : List Char → Option Int
  | '0' :: 'x' :: cs => based? 16 cs
  | '0' :: 'o' :: cs => based? 8 cs
  | '0' :: 'b' :: cs => based? 2 cs
  | cs =>
    let (negative, ds) := Numeral.spanSign cs
    if isWhole ds then
      let n := valueIn 10 (ungrouped ds)
      inRange (if negative then -n else n)
    else none

/-- A digit or an underscore. -/
def isDigitPart (c : Char) : Bool := c.isDigit || c = '_'

/-- The power of ten that may end a float. -/
def isPower : List Char → Bool
  | [] => true
  | c :: cs => (c = 'e' || c = 'E') && isGrouped Char.isDigit (Numeral.spanSign cs).2

/-- A whole number with a fraction, a power of ten, or both. -/
def isFloat (cs : List Char) : Bool :=
  isWhole (cs.takeWhile isDigitPart) &&
    match cs.dropWhile isDigitPart with
    | [] => false
    | '.' :: rest =>
      isGrouped Char.isDigit (rest.takeWhile isDigitPart) && isPower (rest.dropWhile isDigitPart)
    | rest => isPower rest

/-- The float of a word; numerals beyond the largest double are refused. -/
def float? (cs : List Char) : Option Double :=
  let (negative, ds) := Numeral.spanSign cs
  if ds = ['i', 'n', 'f'] then some (.infinite negative)
  else if ds = ['n', 'a', 'n'] then some .nan
  else if isFloat ds then
    (Numeral.read? (ungrouped ds)).bind fun x =>
      match x.toDouble negative with
      | .infinite false => none
      | y => some y
  else none

/-! ## Dates and times -/

/-- The value of two digits, if it lies between two bounds. -/
def isPair (low high : Nat) (a b : Char) : Bool :=
  a.isDigit && b.isDigit &&
    let n := Decimal.value [a, b]
    low ≤ n && n ≤ high

def isLeapYear (y : Nat) : Bool := y % 4 = 0 && (y % 100 ≠ 0 || y % 400 = 0)

/-- The days of a month. -/
def daysIn (year month : Nat) : Nat :=
  if month = 2 then (if isLeapYear year then 29 else 28)
  else if month = 4 ∨ month = 6 ∨ month = 9 ∨ month = 11 then 30
  else 31

/-- A date written as `yyyy-mm-dd`. -/
def isDate : List Char → Bool
  | [a, b, c, d, '-', e, f, '-', g, h] =>
    [a, b, c, d].all Char.isDigit && isPair 1 12 e f &&
      isPair 1 (daysIn (Decimal.value [a, b, c, d]) (Decimal.value [e, f])) g h
  | _ => false

/-- A distance from universal time. -/
def isOffset : List Char → Bool
  | ['Z'] | ['z'] => true
  | [s, a, b, ':', c, d] => (s = '+' || s = '-') && isPair 0 23 a b && isPair 0 59 c d
  | _ => false

/-- The end of a time of day: a fraction of a second, and an offset where one may stand. -/
def isClockEnd (offset : Bool) : List Char → Bool
  | [] => true
  | '.' :: cs =>
    let rest := cs.dropWhile Char.isDigit
    rest.length ≠ cs.length && (rest = [] || (offset && isOffset rest))
  | cs => offset && isOffset cs

/-- A time of day written as `hh:mm:ss`. -/
def isClock (offset : Bool) : List Char → Bool
  | a :: b :: ':' :: c :: d :: ':' :: e :: f :: rest =>
    isPair 0 23 a b && isPair 0 59 c d && isPair 0 60 e f && isClockEnd offset rest
  | _ => false

/-- A date, a time of day, or both with a letter between. -/
def isMoment (cs : List Char) : Bool :=
  isDate cs || isClock false cs ||
    match cs.drop 10 with
    | t :: clock => (t = 'T' || t = 't') && isDate (cs.take 10) && isClock true clock
    | [] => false

/-! ## Words -/

/-- A character of a word. -/
def isWordChar (c : Char) : Bool :=
  c.isAlphanum || c = '+' || c = '-' || c = '_' || c = '.' || c = ':'

/-- The value of a word. -/
def scalar? (word : List Char) : Option Toml :=
  if word = ['t', 'r', 'u', 'e'] then some (.boolean true)
  else if word = ['f', 'a', 'l', 's', 'e'] then some (.boolean false)
  else if isMoment word then some .moment
  else match integer? word with
    | some n => some (.integer n)
    | none => (float? word).map .float

/-- The value of the word at the front of a text, and what follows it. A space may part a date from
its time. -/
def readScalar? (cs : List Char) : Option (Toml × List Char) :=
  let word := cs.takeWhile isWordChar
  let rest := cs.dropWhile isWordChar
  let clock := (rest.drop 1).takeWhile isWordChar
  if isDate word ∧ rest.head? = some ' ' ∧ clock ≠ [] then
    if isClock true clock then some (.moment, (rest.drop 1).dropWhile isWordChar) else none
  else (scalar? word).map fun v => (v, rest)

end Reroute.Toml
