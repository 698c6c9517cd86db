import Reroute.Decimal

/-!
# Binary floating-point numbers

A magnitude is a natural number of quanta, one quantum being `2 ^ -1074`, with at most 53
significant bits. Every operation first takes the exact result as a quotient of naturals and
then rounds it once, to the nearest magnitude, a tie going to the even neighbour.

## Main definitions

* `Magnitude` — a finite size, `Magnitude.ofQuotient?` — the one nearest to a quotient.
* `Double` — a signed size, an infinity, or not a number.
* `Double.mul`, `Double.div`, `Double.add`, `Double.rem`, `Double.floor`, `Double.round`.
* `Double.bits`, `Double.ofBits` — the interchange format.
-/

namespace Reroute

namespace Magnitude

/-- The number of quanta in one. -/
@[irreducible] def unit : Nat := 2 ^ 1074

/-- The first number of quanta that is too large. -/
@[irreducible] def bound : Nat := 2 ^ 2098

theorem unit_pos : 0 < unit := by unfold unit; exact Nat.two_pow_pos 1074

theorem bound_pos : 0 < bound := by unfold bound; exact Nat.two_pow_pos 2098

/-- How many low bits a natural must leave clear to have 53 significant bits. -/
def spare (n : Nat) : Nat := n.log2 - 52

/-- At most 53 significant bits, below the bound. -/
def Fits (n : Nat) : Prop := 2 ^ spare n ∣ n ∧ n < bound

instance (n : Nat) : Decidable (Fits n) := inferInstanceAs (Decidable (_ ∧ _))

end Magnitude

/-- A finite size: a number of quanta that fits 53 significant bits. -/
structure Magnitude where
  quanta : Nat
  fits : Magnitude.Fits quanta
  deriving DecidableEq

namespace Magnitude

/-- The natural with 53 significant bits nearest to `a / b`, however large. -/
def roundQuotient (a b : Nat) : Nat :=
  Decimal.nearest a (b * 2 ^ spare (a / b)) * 2 ^ spare (a / b)

theorem dvd_mul_pow {k s : Nat} (hk : k ≤ 2 ^ 53) :
    2 ^ spare (k * 2 ^ s) ∣ k * 2 ^ s := by
  unfold spare
  rcases Nat.eq_zero_or_pos k with rfl | hp
  · simp
  rcases Nat.lt_or_ge k (2 ^ 53) with h | h
  · have hlt : k * 2 ^ s < 2 ^ (53 + s) := by
      rw [Nat.pow_add]; exact Nat.mul_lt_mul_of_pos_right h (Nat.two_pow_pos s)
    have hne : k * 2 ^ s ≠ 0 := Nat.ne_of_gt (Nat.mul_pos hp (Nat.two_pow_pos s))
    have := (Nat.log2_lt hne).2 hlt
    exact Nat.dvd_trans (Nat.pow_dvd_pow 2 (by omega)) (Nat.dvd_mul_left ..)
  · obtain rfl : k = 2 ^ 53 := Nat.le_antisymm hk h
    rw [← Nat.pow_add, Nat.log2_two_pow]
    exact Nat.pow_dvd_pow 2 (by omega)

theorem div_pow_spare_lt (q : Nat) : q / 2 ^ spare q < 2 ^ 53 := by
  rw [Nat.div_lt_iff_lt_mul (Nat.two_pow_pos _), ← Nat.pow_add]
  refine Nat.lt_of_lt_of_le Nat.lt_log2_self (Nat.pow_le_pow_right (by decide) ?_)
  unfold spare; omega

theorem dvd_roundQuotient (a b : Nat) :
    2 ^ spare (roundQuotient a b) ∣ roundQuotient a b := by
  refine dvd_mul_pow (Nat.le_trans (Decimal.nearest_le ..) ?_)
  rw [← Nat.div_div_eq_div_mul]
  exact div_pow_spare_lt (a / b)

/-- The magnitude nearest to `a / b` quanta; `none` when it is too large. -/
def ofQuotient? (a b : Nat) : Option Magnitude :=
  if h : roundQuotient a b < bound then some ⟨roundQuotient a b, dvd_roundQuotient a b, h⟩
  else none

/-- What already fits is not changed by rounding. -/
theorem roundQuotient_one {n : Nat} (h : Fits n) : roundQuotient n 1 = n := by
  unfold roundQuotient
  rw [Nat.div_one, Nat.one_mul, Decimal.nearest_of_dvd h.1, Nat.div_mul_cancel h.1]

@[simp] theorem ofQuotient?_one (m : Magnitude) : ofQuotient? m.quanta 1 = some m := by
  simp [ofQuotient?, roundQuotient_one m.fits, m.fits.2]

/-- The size zero. -/
def zero : Magnitude := ⟨0, Nat.dvd_zero _, bound_pos⟩

/-- The place of a magnitude in the order of all magnitudes, which is also its bit pattern. -/
def index (m : Magnitude) : Nat := spare m.quanta * 2 ^ 52 + m.quanta / 2 ^ spare m.quanta

end Magnitude

/-- A number of the binary64 format. -/
inductive Double where
  | nan
  | infinite (negative : Bool)
  | finite (negative : Bool) (size : Magnitude)
  deriving DecidableEq

namespace Double

open Magnitude (unit bound)

/-- The double nearest to `a / b` quanta with the given sign. -/
def ofQuanta (negative : Bool) (a b : Nat) : Double :=
  match Magnitude.ofQuotient? a b with
  | some m => .finite negative m
  | none => .infinite negative

@[simp] theorem ofQuanta_one (negative : Bool) (m : Magnitude) :
    ofQuanta negative m.quanta 1 = .finite negative m := by
  simp [ofQuanta]

/-- The double nearest to `a / b`. -/
def ofRatio (a b : Nat) : Double := ofQuanta false (a * unit) b

/-- The double nearest to a natural. -/
def ofNat (n : Nat) : Double := ofRatio n 1

instance (n : Nat) : OfNat Double n := ⟨ofNat n⟩

def zero : Double := .finite false .zero

def neg : Double → Double
  | .nan => .nan
  | .infinite s => .infinite !s
  | .finite s m => .finite (!s) m

def isFinite : Double → Bool
  | .finite .. => true
  | _ => false

/-! ## Order -/

/-- A key for comparisons: signed quanta, an infinity standing at the bound. -/
def key? : Double → Option Int
  | .nan => none
  | .infinite s => some (if s then -bound else bound)
  | .finite s m => some (if s then -m.quanta else m.quanta)

/-- Numeric order; not a number is below nothing. -/
def lt (x y : Double) : Bool :=
  match x.key?, y.key? with
  | some a, some b => a < b
  | _, _ => false

def le (x y : Double) : Bool :=
  match x.key?, y.key? with
  | some a, some b => a ≤ b
  | _, _ => false

/-- Numeric equality: both zeros are equal, and not a number equals nothing. -/
def eqv (x y : Double) : Bool :=
  match x.key?, y.key? with
  | some a, some b => a == b
  | _, _ => false

/-! ## Arithmetic -/

def mul : Double → Double → Double
  | .finite s a, .finite t b => ofQuanta (s ^^ t) (a.quanta * b.quanta) unit
  | .infinite s, .infinite t => .infinite (s ^^ t)
  | .infinite s, .finite t b => if b.quanta = 0 then .nan else .infinite (s ^^ t)
  | .finite s a, .infinite t => if a.quanta = 0 then .nan else .infinite (s ^^ t)
  | .nan, _ | _, .nan => .nan

def div : Double → Double → Double
  | .finite s a, .finite t b =>
    if b.quanta = 0 then if a.quanta = 0 then .nan else .infinite (s ^^ t)
    else ofQuanta (s ^^ t) (a.quanta * unit) b.quanta
  | .infinite s, .finite t _ => .infinite (s ^^ t)
  | .finite s _, .infinite t => .finite (s ^^ t) .zero
  | _, _ => .nan

/-- A sum; an exact zero is negative only when both terms are. -/
def add : Double → Double → Double
  | .finite s a, .finite t b =>
    if s = t then ofQuanta s (a.quanta + b.quanta) 1
    else if b.quanta < a.quanta then ofQuanta s (a.quanta - b.quanta) 1
    else if a.quanta < b.quanta then ofQuanta t (b.quanta - a.quanta) 1
    else zero
  | .infinite s, .infinite t => if s = t then .infinite s else .nan
  | .infinite s, .finite .. => .infinite s
  | .finite .., .infinite t => .infinite t
  | .nan, _ | _, .nan => .nan

/-- The remainder of the quotient cut to a whole number; it has the sign of the first number. -/
def rem : Double → Double → Double
  | .finite s a, .finite _ b =>
    if b.quanta = 0 then .nan else ofQuanta s (a.quanta % b.quanta) 1
  | .finite s a, .infinite _ => .finite s a
  | _, _ => .nan

/-- The greatest whole number that is not above. -/
def floor : Double → Double
  | .finite s a =>
    ofQuanta s (if s then (a.quanta + (unit - 1)) / unit * unit else a.quanta / unit * unit) 1
  | x => x

/-- The nearest whole number, a half going away from zero. -/
def round : Double → Double
  | .finite s a => ofQuanta s ((2 * a.quanta + unit) / (2 * unit) * unit) 1
  | x => x

/-- The whole part as a 64-bit word, kept within the word's range. -/
def toWord : Double → UInt64
  | .finite false a => UInt64.ofNat (min (a.quanta / unit) (2 ^ 64 - 1))
  | .infinite false => UInt64.ofNat (2 ^ 64 - 1)
  | _ => 0

/-! ## Interchange format -/

/-- The 64-bit pattern; not a number has the pattern of the quiet one. -/
def bits : Double → Nat
  | .nan => 0x7FF8000000000000
  | .infinite s => (if s then 2 ^ 63 else 0) + 0x7FF0000000000000
  | .finite s m => (if s then 2 ^ 63 else 0) + m.index

/-- The double with a given 64-bit pattern. -/
def ofBits (b : Nat) : Double :=
  let s : Bool := b / 2 ^ 63 % 2 == 1
  let e := b / 2 ^ 52 % 2048
  let f := b % 2 ^ 52
  if e = 2047 then if f = 0 then .infinite s else .nan
  else if e = 0 then ofQuanta s f 1
  else ofQuanta s ((2 ^ 52 + f) * 2 ^ (e - 1)) 1

end Double

end Reroute
