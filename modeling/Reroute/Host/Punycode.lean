/-!
# Labels in ASCII letters

A label with other characters is written in ASCII: first its ASCII characters, then, after a
hyphen, for each other character in rising order how far to count to its number and place. Counts
are written in base 36 with a threshold for each digit that adapts to the counts before.

## Main definitions

* `Punycode.encode` — the ASCII form of a label, `Punycode.decode?` — the label of an ASCII form.
-/

namespace Reroute.Punycode

/-- The letter or decimal digit of a number below 36. -/
def digitChar (d : Nat) : Char := Char.ofNat (if d < 26 then 97 + d else 22 + d)

/-- The number of a letter or decimal digit. -/
def digit? (c : Char) : Option Nat :=
  if 'a' ≤ c ∧ c ≤ 'z' then some (c.toNat - 97)
  else if 'A' ≤ c ∧ c ≤ 'Z' then some (c.toNat - 65)
  else if '0' ≤ c ∧ c ≤ '9' then some (c.toNat - 22)
  else none

/-- The number from which on a digit at position `k` is not the last. -/
def threshold (bias k : Nat) : Nat :=
  if k ≤ bias then 1 else if bias + 26 ≤ k then 26 else k - bias

/-- Divides a count until it is small; returns it with the positions gained. -/
def settle (delta k : Nat) : Nat × Nat :=
  if 455 < delta then settle (delta / 35) (k + 36) else (delta, k)
termination_by delta

/-- The bias after a count, given how many characters there are now. -/
def adapt (delta count : Nat) (first : Bool) : Nat :=
  let delta := if first then delta / 700 else delta / 2
  let (delta, k) := settle (delta + delta / count) 0
  k + 36 * delta / (delta + 38)

/-- Counts and weights stay in 32 bits. -/
def limit : Nat := 2 ^ 32

/-! ## Decoding -/

/-- Reads one count, and returns it added to `sum` with what follows. -/
def readCount? (bias k weight sum : Nat) : List Char → Option (Nat × List Char)
  | [] => none
  | c :: cs =>
    match digit? c with
    | none => none
    | some d =>
      let t := threshold bias k
      if limit ≤ sum + d * weight then none
      else if d < t then some (sum + d * weight, cs)
      else if limit ≤ weight * (36 - t) then none
      else readCount? bias (k + 36) (weight * (36 - t)) (sum + d * weight) cs

theorem length_lt_of_readCount? {bias k weight sum n : Nat} {cs rest : List Char}
    (h : readCount? bias k weight sum cs = some (n, rest)) : rest.length < cs.length := by
  induction cs generalizing k weight sum with
  | nil => simp [readCount?] at h
  | cons c cs ih =>
    unfold readCount? at h
    split at h
    · simp at h
    · dsimp only at h
      split at h
      · simp at h
      · split at h
        · simp only [Option.some.injEq, Prod.mk.injEq] at h
          simp [← h.2]
        · split at h
          · simp at h
          · have := ih h
            simp only [List.length_cons]
            omega

/-- A number that is a character. -/
def isScalar (n : Nat) : Bool := n < 0xD800 || (0xE000 ≤ n && n < 0x110000)

/-- Inserts the characters whose counts follow into the label `done`. The last character inserted
had number `n`, and the next one comes at place `i` or after. -/
def insertAll? (done : List Char) (n i bias : Nat) (cs : List Char) : Option (List Char) :=
  if cs = [] then some done
  else
    match h : readCount? bias 36 1 i cs with
    | none => none
    | some (sum, rest) =>
      have := length_lt_of_readCount? h
      let count := done.length + 1
      let n := n + sum / count
      let place := sum % count
      if isScalar n then
        insertAll? (done.take place ++ Char.ofNat n :: done.drop place) n (place + 1)
          (adapt (sum - i) count (i = 0)) rest
      else none
termination_by cs.length

/-- The label of an ASCII form. -/
def decode? (cs : List Char) : Option (List Char) :=
  if cs.any (0x80 ≤ ·.toNat) then none
  else if '-' ∈ cs then
    let tail := cs.reverse.takeWhile (· ≠ '-')
    insertAll? (cs.take (cs.length - tail.length - 1)) 128 0 72
      (if cs.length = tail.length + 1 then cs else tail.reverse)
  else insertAll? [] 128 0 72 cs

/-! ## Encoding -/

theorem threshold_pos (bias k : Nat) : 0 < threshold bias k := by
  unfold threshold; split
  · omega
  · split <;> omega

/-- The digits of a count. -/
def countChars (bias k q : Nat) : List Char :=
  let t := threshold bias k
  if q < t then [digitChar q]
  else digitChar (t + (q - t) % (36 - t)) :: countChars bias (k + 36) ((q - t) / (36 - t))
termination_by q
decreasing_by
  have := threshold_pos bias k
  exact Nat.lt_of_le_of_lt (Nat.div_le_self _ _) (by omega)

/-- What encoding has reached: characters written, the running count, the bias, and how many
characters of the label are written. -/
structure Progress where
  done : List Char
  delta : Nat
  bias : Nat
  written : Nat

/-- Goes past one character of the label while those with number `n` are written. -/
def Progress.pass (basic n : Nat) (p : Progress) (c : Char) : Progress :=
  if c.toNat < n then { p with delta := p.delta + 1 }
  else if c.toNat = n then
    { done := p.done ++ countChars p.bias 36 p.delta
      delta := 0
      bias := adapt p.delta (p.written + 1) (p.written = basic)
      written := p.written + 1 }
  else p

/-- Writes the characters of the label with the given rising numbers, the last one before being
`n - 1`. -/
def writeAll (cs : List Char) (basic : Nat) : List Nat → Nat → Progress → Progress
  | [], _, p => p
  | m :: ms, n, p =>
    let p := { p with delta := p.delta + (m - n) * (p.written + 1) }
    let p := cs.foldl (Progress.pass basic m) p
    writeAll cs basic ms (m + 1) { p with delta := p.delta + 1 }

/-- Puts a number into its place in a rising list without repetition. -/
def insertNumber (n : Nat) : List Nat → List Nat
  | [] => [n]
  | m :: ms => if n < m then n :: m :: ms else if n = m then m :: ms else m :: insertNumber n ms

/-- The ASCII form of a label. -/
def encode (cs : List Char) : List Char :=
  let basic := cs.filter (·.toNat < 0x80)
  let others := (cs.filter (0x80 ≤ ·.toNat)).foldl (fun ms c => insertNumber c.toNat ms) []
  let p := writeAll cs basic.length others 128 ⟨[], 0, 72, basic.length⟩
  basic ++ (if basic = [] then [] else ['-']) ++ p.done

end Reroute.Punycode
