import Reroute.Proofs.Json.RoundTrip

/-!
# Where numerals end

A numeral is read as it would be if nothing followed, as far as what follows cannot go on with it.
So a number is read back wherever it is written, if it is read back from its own text. Whole numbers
always are.

## Main results

* `Json.Number.readUnsigned?_extend` — what follows a numeral is left over.
* `Json.Number.legible_iff` — which numbers are read back wherever they are written.
* `Json.Number.legible_natural`, `Json.Number.legible_negSucc` — whole numbers are.
-/

namespace Reroute

namespace Decimal

/-- Only zero is written with a leading zero. -/
theorem eq_zero_of_head?_digits {n : Nat} (h : (digits n).head? = some '0') : n = 0 := by
  fun_induction digits n with
  | case1 n small =>
    have first : digitChar n = '0' := by simpa using h
    have value : digitOf (digitChar n) = digitOf '0' := congrArg digitOf first
    rw [digitOf_digitChar small] at value
    exact value
  | case2 n large ih =>
    cases front : digits (n / 10) with
    | nil => exact absurd front (digits_ne_nil _)
    | cons c cs =>
      rw [front] at h ih
      have zero := ih h
      omega

theorem le_foldl_value (cs : List Char) (n : Nat) :
    n ≤ cs.foldl (fun n c => 10 * n + digitOf c) n := by
  induction cs generalizing n with
  | nil => exact Nat.le_refl n
  | cons c cs ih =>
    have later := ih (10 * n + digitOf c)
    rw [List.foldl_cons]
    omega

end Decimal

/-! ## Digits at the front -/

/-- Digits are taken off the front up to where they end. -/
theorem Numeral.spanDigits_append {ds rest : List Char} (digits : ∀ c ∈ ds, c.isDigit = true)
    (ends : ∀ c ∈ rest.head?, c.isDigit = false) : spanDigits (ds ++ rest) = (ds, rest) := by
  unfold spanDigits
  rw [List.takeWhile_append_of_pos digits, List.dropWhile_append_of_pos digits]
  cases rest with
  | nil => simp
  | cons c rest => simp [ends c rfl]

/-- Digits are taken off the front as they would be if nothing followed. -/
theorem Numeral.spanDigits_extend {cs ds left rest : List Char} (h : spanDigits cs = (ds, left))
    (ends : ∀ c ∈ rest.head?, c.isDigit = false) :
    spanDigits (cs ++ rest) = (ds, left ++ rest) := by
  obtain ⟨rfl, rfl⟩ := Prod.mk.inj h
  have whole : cs ++ rest = cs.takeWhile Char.isDigit ++ (cs.dropWhile Char.isDigit ++ rest) := by
    rw [← List.append_assoc, List.takeWhile_append_dropWhile]
  rw [whole]
  have taken := List.all_takeWhile (p := Char.isDigit) (l := cs)
  refine spanDigits_append (fun c hc => List.all_eq_true.1 taken c hc) fun c hc => ?_
  cases hd : cs.dropWhile Char.isDigit with
  | nil => exact ends c (by simpa [hd] using hc)
  | cons d ds =>
    have first := List.head?_dropWhile_not Char.isDigit cs
    rw [hd] at first hc
    obtain rfl : d = c := by simpa using hc
    simpa using first

namespace Json.Number

open Decimal (digits)

/-- A word takes all digits of a number that fits. -/
theorem takeWord_of_lt (ds : List Char) (n : Nat)
    (h : ds.foldl (fun n c => 10 * n + Decimal.digitOf c) n < 2 ^ 64) :
    takeWord n ds = (ds.foldl (fun n c => 10 * n + Decimal.digitOf c) n, []) := by
  induction ds generalizing n with
  | nil => rfl
  | cons c ds ih =>
    rw [List.foldl_cons] at h ⊢
    have fits := Nat.lt_of_le_of_lt (Decimal.le_foldl_value ds _) h
    rw [takeWord, if_pos fits]
    exact ih _ h

/-! ## What follows a numeral -/

theorem readPower?_extend {cs left rest : List Char} {p : Int} (h : readPower? cs = some (p, left))
    (ends : EndsNumeral rest) : readPower? (cs ++ rest) = some (p, left ++ rest) := by
  have signed : Numeral.spanSign (cs ++ rest) =
      ((Numeral.spanSign cs).1, (Numeral.spanSign cs).2 ++ rest) := by
    cases cs with
    | nil => cases h
    | cons c cs =>
      rw [List.cons_append]
      unfold Numeral.spanSign
      split <;> simp_all
  obtain ⟨ds, after, span⟩ : ∃ ds after, Numeral.spanDigits (Numeral.spanSign cs).2 = (ds, after) :=
    ⟨_, _, rfl⟩
  have longer := Numeral.spanDigits_extend span fun c hc => (ends c hc).1
  simp only [readPower?, span] at h
  simp only [readPower?, signed, longer]
  split at h
  · cases h
  · rename_i some
    cases h
    rw [if_neg some]

theorem readFloat?_extend {negative : Bool} {n : Nat} {e : Int} {cs left rest : List Char}
    {w : Number} (h : readFloat? negative n e cs = some (w, left)) (ends : EndsNumeral rest) :
    readFloat? negative n e (cs ++ rest) = some (w, left ++ rest) := by
  cases cs with
  | nil =>
    simp only [readFloat?] at h
    cases hw : readParts? negative n e with
    | none => simp [hw] at h
    | some x =>
      simp [hw] at h
      obtain ⟨rfl, rfl⟩ := h
      cases rest with
      | nil => simp [readFloat?, hw]
      | cons c rest =>
        obtain ⟨-, -, lower, upper⟩ := ends c rfl
        simp [readFloat?, hw, lower, upper]
  | cons c cs =>
    simp only [List.cons_append, readFloat?] at h ⊢
    split at h
    · rename_i exponent
      rw [if_pos exponent]
      cases hp : readPower? cs with
      | none => simp [hp] at h
      | some x =>
        obtain ⟨p, after⟩ := x
        have longer := readPower?_extend hp ends
        cases hw : readParts? negative n (e + p) <;> simp_all
    · rename_i other
      rw [if_neg other]
      cases hw : readParts? negative n e with
      | none => simp [hw] at h
      | some x =>
        simp [hw] at h ⊢
        exact ⟨h.1, by rw [← h.2, List.cons_append]⟩

section Unsigned

variable {negative : Bool} {cs ds after : List Char} {n : Nat} {excess : List Char}

/-- The digits begin a numeral. -/
def Begins (ds : List Char) : Prop := ¬(ds = [] ∨ ds.head? = some '0' ∧ ds.length ≠ 1)

/-- A numeral without a point is a float if a power of ten follows or not all digits fit. -/
theorem readUnsigned?_of_span (span : Numeral.spanDigits cs = (ds, after)) (begins : Begins ds)
    (taken : takeWord 0 ds = (n, excess)) (point : after.head? ≠ some '.') :
    readUnsigned? negative cs =
      if after.head? = some 'e' ∨ after.head? = some 'E' ∨ excess ≠ [] then
        readFloat? negative n excess.length after
      else (whole? negative n).map fun w => (w, after) := by
  unfold Begins at begins
  simp only [readUnsigned?, span, taken, if_neg begins]
  cases after with
  | nil =>
    cases hw : whole? negative n <;> simp
  | cons c after =>
    have other : c ≠ '.' := by simpa using point
    split
    · rename_i same
      exact absurd (List.cons.inj same).1 other
    · rename_i same
      obtain ⟨rfl, rfl⟩ := List.cons.inj same
      cases hw : whole? negative n <;> simp
    · rename_i same
      cases same

/-- A numeral with a point is a float. -/
theorem readUnsigned?_of_point {fs left : List Char}
    (span : Numeral.spanDigits cs = (ds, '.' :: after)) (begins : Begins ds)
    (taken : takeWord 0 ds = (n, excess)) (fraction : Numeral.spanDigits after = (fs, left)) :
    readUnsigned? negative cs = if fs = [] then none else
      readFloat? negative (takeWord n fs).1
        (excess.length - (fs.length - (takeWord n fs).2.length)) left := by
  unfold Begins at begins
  simp only [readUnsigned?, span, taken, if_neg begins, fraction]
  rfl

theorem readUnsigned?_eq_none (span : Numeral.spanDigits cs = (ds, after)) (h : ¬Begins ds) :
    readUnsigned? negative cs = none := by
  unfold Begins at h
  simp only [readUnsigned?, span, if_pos (Decidable.of_not_not h)]
  rfl

end Unsigned

theorem readUnsigned?_extend {negative : Bool} {cs left rest : List Char} {w : Number}
    (h : readUnsigned? negative cs = some (w, left)) (ends : EndsNumeral rest) :
    readUnsigned? negative (cs ++ rest) = some (w, left ++ rest) := by
  have digits : ∀ c ∈ rest.head?, c.isDigit = false := fun c hc => (ends c hc).1
  obtain ⟨ds, after, span⟩ : ∃ ds after, Numeral.spanDigits cs = (ds, after) := ⟨_, _, rfl⟩
  obtain ⟨n, excess, taken⟩ : ∃ n excess, takeWord 0 ds = (n, excess) := ⟨_, _, rfl⟩
  have longer := Numeral.spanDigits_extend span digits
  have begins : Begins ds := by
    intro wrong
    rw [readUnsigned?_eq_none span (not_not_intro wrong)] at h
    cases h
  by_cases point : after.head? = some '.'
  · obtain ⟨after, rfl⟩ : ∃ more, after = '.' :: more := by
      cases after with
      | nil => cases point
      | cons c more => exact ⟨more, by simpa using point⟩
    obtain ⟨fs, left', fraction⟩ : ∃ fs left', Numeral.spanDigits after = (fs, left') :=
      ⟨_, _, rfl⟩
    rw [readUnsigned?_of_point span begins taken fraction] at h
    rw [readUnsigned?_of_point longer begins taken (Numeral.spanDigits_extend fraction digits)]
    split at h
    · cases h
    · rename_i digit
      rw [if_neg digit]
      exact readFloat?_extend h ends
  · -- What follows is no part of the numeral, so it begins neither a fraction nor a power.
    have first : ∀ c, (c = '.' ∨ c = 'e' ∨ c = 'E') →
        ((after ++ rest).head? = some c ↔ after.head? = some c) := by
      intro c special
      cases after with
      | nil =>
        cases rest with
        | nil => rfl
        | cons d rest =>
          obtain ⟨-, other⟩ := ends d rfl
          simp only [List.nil_append, List.head?_cons, List.head?_nil, Option.some.injEq]
          grind
      | cons d after => rfl
    rw [readUnsigned?_of_span span begins taken point] at h
    rw [readUnsigned?_of_span longer begins taken (by rwa [ne_eq, first '.' (by simp)])]
    have kind :
        ((after ++ rest).head? = some 'e' ∨ (after ++ rest).head? = some 'E' ∨ excess ≠ []) ↔
          (after.head? = some 'e' ∨ after.head? = some 'E' ∨ excess ≠ []) := by
      rw [first 'e' (by simp), first 'E' (by simp)]
    split at h
    · rename_i float
      rw [if_pos (kind.2 float)]
      exact readFloat?_extend h ends
    · rename_i whole
      rw [if_neg fun float => whole (kind.1 float)]
      obtain ⟨x, hx, same⟩ := Option.map_eq_some_iff.1 h
      cases same
      rw [hx]
      rfl

/-- A number is read back wherever it is written if it is read back from its own text. -/
theorem legible_iff {n : Number} : n.Legible ↔ read? n.chars = some (n, []) := by
  constructor
  · intro h
    simpa using h [] (by simp [EndsNumeral])
  · intro h rest ends
    cases hc : n.chars with
    | nil =>
      rw [hc] at h
      cases h
    | cons c cs =>
      rw [hc] at h
      rw [List.cons_append]
      rw [read?.eq_def] at h ⊢
      split at h
      · rename_i sign
        obtain ⟨rfl, rfl⟩ := List.cons.inj sign
        simpa using readUnsigned?_extend h ends
      · rename_i sign
        split
        · rename_i other
          obtain ⟨rfl, rfl⟩ := List.cons.inj other
          exact absurd rfl (sign cs)
        · simpa using readUnsigned?_extend h ends

/-! ## Whole numbers -/

/-- The digits of a number that fits are read as that number. -/
theorem readUnsigned?_digits (negative : Bool) {n : Nat} (fits : n < 2 ^ 64) :
    readUnsigned? negative (digits n) = (whole? negative n).map fun w => (w, []) := by
  have span : Numeral.spanDigits (digits n ++ []) = (digits n, []) :=
    Numeral.spanDigits_append (fun c => Decimal.isDigit_of_mem_digits) nofun
  have taken : takeWord 0 (digits n) = (n, []) := by
    have all : (digits n).foldl (fun n c => 10 * n + Decimal.digitOf c) 0 = n :=
      Decimal.value_digits n
    rw [takeWord_of_lt _ _ (by rwa [all]), all]
  have begins : Begins (digits n) := by
    rintro (none | ⟨zero, long⟩)
    · exact Decimal.digits_ne_nil n none
    · obtain rfl := Decimal.eq_zero_of_head?_digits zero
      exact long (by simp [digits])
  rw [List.append_nil] at span
  rw [readUnsigned?_of_span span begins taken (by simp)]
  simp

/-- Digits begin with no sign. -/
theorem read?_digits (n : Nat) : read? (digits n) = readUnsigned? false (digits n) := by
  cases front : digits n with
  | nil => exact absurd front (Decimal.digits_ne_nil n)
  | cons c cs =>
    have digit : c.isDigit = true :=
      Decimal.isDigit_of_mem_digits (n := n) (front ▸ List.mem_cons_self)
    rw [read?.eq_def]
    split
    · rename_i sign
      rw [(List.cons.inj sign).1] at digit
      cases digit
    · rfl

theorem legible_natural (n : UInt64) : (Number.natural n).Legible := by
  rw [legible_iff, chars, read?_digits, readUnsigned?_digits false n.toNat_lt]
  simp [whole?]

theorem legible_negSucc (n : Nat) (small : n < 2 ^ 63) : (Number.negSucc n small).Legible := by
  have fits : 0 < n + 1 ∧ n + 1 ≤ 2 ^ 63 := ⟨by omega, by omega⟩
  have whole : whole? true (n + 1) = some (.negSucc n small) := by
    simp only [whole?, if_true, dif_pos fits, Nat.add_sub_cancel]
  rw [legible_iff, chars, read?, readUnsigned?_digits true (by omega), whole]
  rfl

end Json.Number

end Reroute
