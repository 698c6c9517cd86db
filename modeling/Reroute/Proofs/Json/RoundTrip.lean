import Reroute.Json.Printer
import Reroute.Json.Reader

/-!
# Reading what was printed

A value whose numbers are read back is read back as a whole: the printer puts nothing between
the parts of a value that the reader does not expect there.

## Main definitions

* `Number.Legible` — a number that is read back wherever it is written.
* `Legible` — a value of such numbers that is not too deep, with the members of objects in order.

## Main results

* `readString?_quoted` — texts are read back, whatever their characters.
* `read?_print` — legible values are read back.
-/

namespace Reroute.Json

/-! ## Texts -/

theorem hexUnit?_hexDigit {n : Nat} (h : n < 256) :
    hexUnit? '0' '0' (Text.hexDigit (n / 16)) (Text.hexDigit (n % 16)) = some n := by
  have zero : Text.hexDigit? '0' = some 0 := by decide
  have high := Text.hexDigit?_hexDigit (n := n / 16) (by omega)
  have low := Text.hexDigit?_hexDigit (n := n % 16) (by omega)
  simp only [hexUnit?, zero, high, low]
  simp
  omega

theorem toNat_eq {c : Char} {n : Nat} (h : c.toNat = n) : c = Char.ofNat n := by
  rw [← h, Char.ofNat_toNat]

theorem readString?_escape (c : Char) (rest : List Char) :
    readString? (escape c ++ rest) = (readString? rest).map fun (s, r) => (c :: s, r) := by
  unfold escape
  split
  · subst_vars; rfl
  split
  · subst_vars; rfl
  split
  · rename_i quote backslash printable
    have plain : ¬(c.toNat < 0x20 ∨ c = '\\') :=
      not_or.2 ⟨Nat.not_lt.2 printable, backslash⟩
    rw [List.singleton_append, readString?.eq_def]
    split
    · simp_all
    · simp_all
    · simp_all
    · simp_all
    · rename_i same
      obtain ⟨rfl, rfl⟩ := List.cons.inj same
      rw [if_neg plain]
  split
  · rename_i h
    rw [toNat_eq h]; rfl
  split
  · subst_vars; rfl
  split
  · subst_vars; rfl
  split
  · rename_i h
    rw [toNat_eq h]; rfl
  split
  · subst_vars; rfl
  · rename_i hc _ _ _ _ _
    have unit := hexUnit?_hexDigit (n := c.toNat) (by omega)
    have high : isHighUnit c.toNat = false := by simp [isHighUnit]; omega
    have low : isLowUnit c.toNat = false := by simp [isLowUnit]; omega
    simp only [List.cons_append, List.nil_append]
    rw [readString?]
    simp [unit, high, low, Char.ofNat_toNat]

theorem readString?_quoted (s rest : List Char) :
    readString? (s.flatMap escape ++ '"' :: rest) = some (s, rest) := by
  induction s with
  | nil => rfl
  | cons c s ih => simp [readString?_escape, ih]

/-! ## Objects -/

theorem insert_last (key : String) (v : Json) (ms : List (String × Json))
    (h : ∀ m ∈ ms, m.1 < key) : insert key v ms = ms ++ [(key, v)] := by
  induction ms with
  | nil => rfl
  | cons m ms ih =>
    have hm : m.1 < key := h m List.mem_cons_self
    have hne : key ≠ m.1 := fun e => String.lt_irrefl key (e ▸ hm)
    have hms := ih fun m hm => h m (List.mem_cons_of_mem _ hm)
    simp [insert, String.lt_asymm hm, hne, hms]

theorem foldl_insert (ms acc : List (String × Json))
    (h : ((acc ++ ms).map Prod.fst).Pairwise (· < ·)) :
    ms.foldl (fun ms m => insert m.1 m.2 ms) acc = acc ++ ms := by
  induction ms generalizing acc with
  | nil => simp
  | cons m ms ih =>
    have last : insert m.1 m.2 acc = acc ++ [m] := by
      apply insert_last
      intro a ha
      simp only [List.map_append, List.pairwise_append] at h
      exact h.2.2 _ (List.mem_map_of_mem ha) _ (by simp)
    rw [List.foldl_cons, last, ih _ (by simpa using h)]
    simp

theorem ofMembers_of_pairwise {ms : List (String × Json)}
    (h : (ms.map Prod.fst).Pairwise (· < ·)) : ofMembers ms = .object ms := by
  rw [ofMembers, foldl_insert ms [] (by simpa using h)]
  rfl

/-! ## Legible values -/

/-- No numeral goes on in what follows. -/
def EndsNumeral (rest : List Char) : Prop :=
  ∀ c ∈ rest.head?, c.isDigit = false ∧ c ≠ '.' ∧ c ≠ 'e' ∧ c ≠ 'E'

/-- A number that is read back wherever it is written. -/
def Number.Legible (n : Number) : Prop :=
  ∀ rest, EndsNumeral rest → Number.read? (n.chars ++ rest) = some (n, rest)

mutual

/-- A value that fits into a depth, with ordered members and numbers that are read back. -/
def Legible : Nat → Json → Prop
  | _, .number n => n.Legible
  | depth + 1, .array items => LegibleItems depth items
  | depth + 1, .object members =>
    (members.map Prod.fst).Pairwise (· < ·) ∧ LegibleMembers depth members
  | 0, .array _ | 0, .object _ => False
  | _, _ => True

def LegibleItems : Nat → List Json → Prop
  | _, [] => True
  | depth, v :: vs => Legible depth v ∧ LegibleItems depth vs

def LegibleMembers : Nat → List (String × Json) → Prop
  | _, [] => True
  | depth, (_, v) :: ms => Legible depth v ∧ LegibleMembers depth ms

end

/-! ## First characters -/

/-- A character that is not skipped between the parts of a value. -/
def Solid (c : Char) : Prop := c ≠ ' ' ∧ c ≠ '\n' ∧ c ≠ '\t' ∧ c ≠ '\r'

instance (c : Char) : Decidable (Solid c) := inferInstanceAs (Decidable (_ ∧ _))

theorem skipBlank_cons {c : Char} (h : Solid c) (cs : List Char) :
    skipBlank (c :: cs) = c :: cs := by
  unfold Solid at h
  simp [skipBlank, h]

/-- A character that a numeral may begin with. -/
def StartsNumeral (c : Char) : Prop := c = '-' ∨ c.isDigit = true

theorem StartsNumeral.ne {c d : Char} (h : StartsNumeral c) (hm : d ≠ '-')
    (hd : d.isDigit = false) : c ≠ d := by
  rintro rfl
  rcases h with h | h
  · exact hm h
  · simp [hd] at h

theorem StartsNumeral.solid {c : Char} (h : StartsNumeral c) : Solid c :=
  ⟨h.ne (by decide) (by decide), h.ne (by decide) (by decide), h.ne (by decide) (by decide),
    h.ne (by decide) (by decide)⟩

theorem startsNumeral_of_read? {c : Char} {cs rest : List Char} {n : Number}
    (h : Number.read? (c :: cs) = some (n, rest)) : StartsNumeral c := by
  cases hd : c.isDigit with
  | true => exact .inr hd
  | false =>
    refine .inl (Decidable.byContradiction fun hc => ?_)
    have unsigned : Number.read? (c :: cs) = Number.readUnsigned? false (c :: cs) := by
      rw [Number.read?.eq_def]
      split <;> simp_all
    rw [unsigned] at h
    simp [Number.readUnsigned?, Numeral.spanDigits, hd] at h

theorem Number.Legible.head {n : Number} (h : n.Legible) :
    ∃ c cs, n.chars = c :: cs ∧ StartsNumeral c := by
  have whole := h [] (by simp [EndsNumeral])
  cases hn : n.chars with
  | nil => simp [hn, Number.read?, Number.readUnsigned?, Numeral.spanDigits] at whole
  | cons c cs =>
    rw [hn] at whole
    exact ⟨c, cs, rfl, startsNumeral_of_read? whole⟩

/-- A value begins with what is not skipped and does not close an array. -/
theorem Legible.head {depth : Nat} {v : Json} (h : Legible depth v) :
    ∃ c cs, v.chars = c :: cs ∧ Solid c ∧ c ≠ ']' := by
  cases v with
  | null => exact ⟨_, _, rfl, by decide⟩
  | bool b => cases b <;> exact ⟨_, _, rfl, by decide⟩
  | number n =>
    obtain ⟨c, cs, hn, hc⟩ := Number.Legible.head (by simpa [Legible] using h)
    exact ⟨c, cs, by rw [chars, hn], hc.solid, hc.ne (by decide) (by decide)⟩
  | string s => exact ⟨_, _, rfl, by decide⟩
  | array vs => cases vs <;> exact ⟨_, _, by rw [chars], by decide⟩
  | object ms => cases ms <;> exact ⟨_, _, by rw [chars], by decide⟩

/-! ## Values -/

/-- What begins like a numeral is read as a number. -/
theorem readValue?_numeral {c : Char} (hc : StartsNumeral c) (fuel depth : Nat) (cs : List Char) :
    readValue? (fuel + 1) depth (c :: cs) =
      (Number.read? (c :: cs)).map fun (n, rest) => (.number n, rest) := by
  rw [readValue?, skipBlank_cons hc.solid]
  -- no other kind of value begins like a numeral
  have hnull := hc.ne (d := 'n') (by decide) (by decide)
  have htrue := hc.ne (d := 't') (by decide) (by decide)
  have hfalse := hc.ne (d := 'f') (by decide) (by decide)
  have hquote := hc.ne (d := '"') (by decide) (by decide)
  have harray := hc.ne (d := '[') (by decide) (by decide)
  have hobject := hc.ne (d := '{') (by decide) (by decide)
  split <;> simp_all

/-- A number is read as a value. -/
theorem readValue?_number {n : Number} (h : n.Legible) (fuel depth : Nat) (rest : List Char)
    (hr : EndsNumeral rest) :
    readValue? (fuel + 1) depth (n.chars ++ rest) = some (.number n, rest) := by
  obtain ⟨c, cs, hn, hc⟩ := h.head
  have hread := h rest hr
  rw [hn, List.cons_append] at hread ⊢
  rw [readValue?_numeral hc, hread]
  rfl

theorem endsNumeral_itemsChars (vs : List Json) (rest : List Char) :
    EndsNumeral (itemsChars vs ++ rest) := by
  cases vs <;> simp [itemsChars, EndsNumeral]

theorem endsNumeral_membersChars (ms : List (String × Json)) (rest : List Char) :
    EndsNumeral (membersChars ms ++ rest) := by
  cases ms <;> simp [membersChars, EndsNumeral]

theorem quoted_append (k : String) (cs : List Char) :
    quoted k ++ cs = '"' :: (k.toList.flatMap escape ++ '"' :: cs) := by
  simp [quoted]

mutual

theorem readValue?_chars : ∀ (v : Json) (fuel depth : Nat) (rest : List Char), Legible depth v →
    2 * v.chars.length ≤ fuel → EndsNumeral rest →
    readValue? fuel depth (v.chars ++ rest) = some (v, rest)
  | v, 0, _, _, h, hf, _ => by
    obtain ⟨c, cs, hv, -⟩ := h.head
    simp [hv] at hf
  | .null, fuel + 1, _, _, _, _, _ => rfl
  | .bool true, fuel + 1, _, _, _, _, _ => rfl
  | .bool false, fuel + 1, _, _, _, _, _ => rfl
  | .number n, fuel + 1, depth, rest, h, _, hr =>
    readValue?_number (by simpa [Legible] using h) fuel depth rest hr
  | .string s, fuel + 1, depth, rest, _, _, _ => by
    have hs := readString?_quoted s.toList rest
    rw [chars, quoted_append, readValue?, skipBlank_cons (by decide)]
    simp [hs]
  | .array [], fuel + 1, depth + 1, rest, _, _, _ => rfl
  | .array (v :: vs), fuel + 1, depth + 1, rest, h, hf, _ => by
    have items := readItems?_chars (v :: vs) fuel depth rest (v.chars ++ itemsChars vs) rfl h (by
      simp [chars] at hf ⊢; omega)
    obtain ⟨c, cs, hv, hb, hc⟩ := Legible.head h.1
    rw [hv, List.cons_append, List.cons_append] at items
    rw [chars, List.cons_append, readValue?, skipBlank_cons (by decide), hv]
    simp only [List.cons_append, skipBlank_cons hb]
    split
    · simp_all
    · simp only [items, Option.map_some]
  | .object [], fuel + 1, depth + 1, rest, _, _, _ => rfl
  | .object ((k, v) :: ms), fuel + 1, depth + 1, rest, h, hf, _ => by
    have members := readMembers?_chars ((k, v) :: ms) fuel depth rest
      (quoted k ++ ':' :: v.chars ++ membersChars ms) rfl h.2 (by
        simp [chars] at hf ⊢; omega)
    rw [chars, List.cons_append, readValue?, skipBlank_cons (by decide)]
    simp only [List.append_assoc, List.cons_append, quoted_append] at members ⊢
    rw [skipBlank_cons (by decide)]
    change Option.map _ (readMembers? ..) = _
    rw [members, Option.map_some, ofMembers_of_pairwise h.1]
  | .array _, _ + 1, 0, _, h, _, _ => h.elim
  | .object _, _ + 1, 0, _, h, _, _ => h.elim

theorem readItems?_chars : ∀ (vs : List Json) (fuel depth : Nat) (rest cs : List Char),
    itemsChars vs = ',' :: cs → LegibleItems depth vs → 2 * cs.length ≤ fuel →
    readItems? fuel depth (cs ++ rest) = some (vs, rest)
  | [], _, _, _, _, he, _, _ => by simp [itemsChars] at he
  | v :: vs, 0, _, _, cs, he, h, hf => by
    obtain ⟨c, ds, hv, -⟩ := Legible.head h.1
    obtain ⟨-, rfl⟩ := List.cons.inj he
    simp [hv] at hf
  | [v], fuel + 1, depth, rest, _, he, h, hf => by
    obtain ⟨-, rfl⟩ := List.cons.inj he
    have value := readValue?_chars v fuel depth (']' :: rest) h.1 (by
      simp [itemsChars] at hf; omega) (by simp [EndsNumeral])
    rw [itemsChars, List.append_assoc, List.singleton_append, readItems?, value]
    simp only [skipBlank_cons (show Solid ']' by decide)]
  | v :: w :: vs, fuel + 1, depth, rest, _, he, h, hf => by
    obtain ⟨-, rfl⟩ := List.cons.inj he
    have value := readValue?_chars v fuel depth (itemsChars (w :: vs) ++ rest) h.1 (by
      simp [itemsChars] at hf; omega) (endsNumeral_itemsChars _ _)
    have items := readItems?_chars (w :: vs) fuel depth rest (w.chars ++ itemsChars vs) rfl h.2 (by
      simp [itemsChars] at hf ⊢; omega)
    rw [List.append_assoc, readItems?, value]
    simp (disch := decide) only [itemsChars, List.cons_append, skipBlank_cons, items,
      Option.map_some]

theorem readMembers?_chars : ∀ (ms : List (String × Json)) (fuel depth : Nat)
    (rest cs : List Char), membersChars ms = ',' :: cs → LegibleMembers depth ms →
    2 * cs.length ≤ fuel → readMembers? fuel depth (cs ++ rest) = some (ms, rest)
  | [], _, _, _, _, he, _, _ => by simp [membersChars] at he
  | (k, v) :: ms, 0, _, _, cs, he, h, hf => by
    obtain ⟨-, rfl⟩ := List.cons.inj he
    simp at hf
  | [(k, v)], fuel + 1, depth, rest, _, he, h, hf => by
    obtain ⟨-, rfl⟩ := List.cons.inj he
    have value := readValue?_chars v fuel depth ('}' :: rest) h.1 (by
      simp [membersChars] at hf; omega) (by simp [EndsNumeral])
    simp (disch := decide) [readMembers?, membersChars, quoted_append, readString?_quoted, value,
      skipBlank_cons]
  | (k, v) :: (l, w) :: ms, fuel + 1, depth, rest, _, he, h, hf => by
    obtain ⟨-, rfl⟩ := List.cons.inj he
    have value := readValue?_chars v fuel depth (membersChars ((l, w) :: ms) ++ rest) h.1 (by
      simp [membersChars] at hf; omega) (endsNumeral_membersChars _ _)
    have members := readMembers?_chars ((l, w) :: ms) fuel depth rest
      (quoted l ++ ':' :: w.chars ++ membersChars ms) rfl h.2 (by
        simp [membersChars] at hf ⊢; omega)
    simp only [List.append_assoc, List.cons_append, quoted_append] at members ⊢
    rw [readMembers?]
    simp (disch := decide) only [skipBlank_cons, readString?_quoted, value]
    simp (disch := decide) [membersChars, skipBlank_cons, quoted_append, members]

end

/-- A legible value is read back from its text. -/
theorem read?_print {v : Json} (h : Legible maxDepth v) : read? v.print = some v := by
  have value := readValue?_chars v (2 * v.chars.length + 2) maxDepth [] h (by omega)
    (by simp [EndsNumeral])
  rw [List.append_nil] at value
  simp [read?, print, value, skipBlank]

end Reroute.Json
