import Reroute.Double.Text
import Reroute.Double.Read

/-!
# JSON numbers

A number is a whole number of 64 bits, or a finite double. The two are kept apart: `20` is whole
and `20.0` is not.

## Main definitions

* `Json.Number` — the numbers, `Json.Number.chars` — how they are written.
* `Json.Number.readParts?` — the value of a numeral given as a significand and a power of ten: the
  significand is first rounded to a double and then scaled, so two roundings take place.
* `Json.Number.read?` — the numeral at the front of a text.
-/

namespace Reroute.Json

/-- A JSON number. -/
inductive Number where
  /-- A whole number that is not negative. -/
  | natural (n : UInt64)
  /-- The whole number `-(n + 1)`. -/
  | negSucc (n : Nat) (small : n < 2 ^ 63)
  /-- A finite double. -/
  | float (negative : Bool) (size : Magnitude)
  deriving DecidableEq

namespace Number

/-- The number as a double. -/
def toDouble : Number → Double
  | .natural n => .ofNat n.toNat
  | .negSucc n _ => (Double.ofNat (n + 1)).neg
  | .float s m => .finite s m

/-- The number of a double, unless that is not finite. -/
def ofDouble? : Double → Option Number
  | .finite s m => some (.float s m)
  | _ => none

/-- Whether two numbers are the same value of the same kind; both float zeros are the same. -/
def same : Number → Number → Bool
  | .natural a, .natural b => a == b
  | .negSucc a _, .negSucc b _ => a == b
  | .float s a, .float t b => (Double.finite s a).eqv (.finite t b)
  | _, _ => false

/-! ## Writing -/

/-- The places where the decimal point is written without a power of ten: `d.ddd · 10 ^ e` with
`-5 ≤ e < 16`. -/
def pointRange (e : Int) : Bool := -5 ≤ e && e < 16

/-- A float keeps a point or a power of ten, so that it reads back as a float. -/
def floatChars (m : Magnitude) : List Char :=
  let x := m.shortest
  if pointRange x.leading then
    match x.split with
    | (whole, []) => whole ++ ['.', '0']
    | (whole, fraction) => whole ++ '.' :: fraction
  else x.withPower

def chars : Number → List Char
  | .natural n => Decimal.digits n.toNat
  | .negSucc n _ => '-' :: Decimal.digits (n + 1)
  | .float s m => Double.signText s ++ floatChars m

/-! ## Reading -/

/-- Takes digits into a significand while it stays a 64-bit word; returns the digits left over. -/
def takeWord (n : Nat) : List Char → Nat × List Char
  | [] => (n, [])
  | c :: cs =>
    if 10 * n + Decimal.digitOf c < 2 ^ 64 then takeWord (10 * n + Decimal.digitOf c) cs
    else (n, c :: cs)

/-- Scales a double by a power of ten, the power itself rounded to a double. Powers beyond `308`
are undone in steps; a positive one is refused unless the double is zero. -/
def scale? (x : Double) (e : Int) : Option Double :=
  if e.natAbs ≤ 308 then
    let y := if 0 ≤ e then x.mul (.ofNat (10 ^ e.natAbs)) else x.div (.ofNat (10 ^ e.natAbs))
    if y.isFinite then some y else none
  else if x.eqv .zero then some x
  else if 0 ≤ e then none
  else scale? (x.div (.ofNat (10 ^ 308))) (e + 308)
termination_by e.natAbs

/-- The float of a sign, a significand and a power of ten. -/
def readParts? (negative : Bool) (significand : Nat) (e : Int) : Option Number := do
  let x ← scale? (.ofNat significand) e
  ofDouble? (if negative then x.neg else x)

/-- A whole number; one that fits no 64-bit word, and a negative zero, become floats. -/
def whole? (negative : Bool) (n : Nat) : Option Number :=
  if negative then
    if h : 0 < n ∧ n ≤ 2 ^ 63 then some (.negSucc (n - 1) (by omega))
    else ofDouble? (Double.ofNat n).neg
  else some (.natural (UInt64.ofNat n))

/-- The power of ten after `e`: an optional sign and at least one digit. -/
def readPower? (cs : List Char) : Option (Int × List Char) :=
  let (negative, cs) := Numeral.spanSign cs
  let (ds, rest) := Numeral.spanDigits cs
  if ds = [] then none
  else some (if negative then -Decimal.value ds else Decimal.value ds, rest)

/-- The end of a numeral with a point or an exponent: `e` may follow. -/
def readFloat? (negative : Bool) (n : Nat) (e : Int) (cs : List Char) :
    Option (Number × List Char) := do
  match cs with
  | c :: rest =>
    if c = 'e' ∨ c = 'E' then
      let (p, rest) ← readPower? rest
      return (← readParts? negative n (e + p), rest)
    else return (← readParts? negative n e, cs)
  | [] => return (← readParts? negative n e, cs)

/-- The numeral after its sign. Digits of the whole part that the significand cannot take raise
the power of ten; such digits after the point are ignored. -/
def readUnsigned? (negative : Bool) (cs : List Char) : Option (Number × List Char) := do
  let (ds, rest) := Numeral.spanDigits cs
  if ds = [] ∨ (ds.head? = some '0' ∧ ds.length ≠ 1) then none
  let (n, left) := takeWord 0 ds
  match rest with
  | '.' :: rest =>
    let (fs, rest) := Numeral.spanDigits rest
    if fs = [] then none
    let (n, ignored) := takeWord n fs
    readFloat? negative n (left.length - (fs.length - ignored.length)) rest
  | c :: _ =>
    if c = 'e' ∨ c = 'E' ∨ left ≠ [] then readFloat? negative n left.length rest
    else return (← whole? negative n, rest)
  | [] =>
    if left ≠ [] then readFloat? negative n left.length rest
    else return (← whole? negative n, rest)

/-- The numeral at the front of a text, and what follows it. -/
def read? : List Char → Option (Number × List Char)
  | '-' :: cs => readUnsigned? true cs
  | cs => readUnsigned? false cs

end Number

end Reroute.Json
