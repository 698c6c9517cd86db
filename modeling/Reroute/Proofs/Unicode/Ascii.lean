import Reroute.Unicode.Composition
import Reroute.Unicode.Direction
import Reroute.Unicode.HostMapping

/-!
# ASCII characters of host names

What the tables say of ASCII characters: none of them belongs to a text from right to left, the host
mapping leaves all but the capital letters, and texts of them are composed already.

## Main definitions

* `Unicode.asciiDirections` — the front of the table of directions.

## Main results

* `Unicode.Stretches.ofText_append` — the front of a text describes the front of its stretches.
* `Unicode.isRightToLeft_of_ascii` — the direction of an ASCII character.
* `Unicode.HostMapping.map?_of_ascii` — the host mapping of ASCII characters without capitals.
-/

namespace Reroute

namespace Unicode

namespace Stretches

variable {α : Type} {t : Stretches α} {n : Nat}

theorem find?_append {found : Nat × α} (h : t.find? n = some found) (rest : Stretches α) :
    Stretches.find? (t ++ rest) n = some found := by
  induction t generalizing n with
  | nil => cases h
  | cons s t ih =>
    obtain ⟨len, a⟩ := s
    simp only [find?, List.cons_append] at h ⊢
    split
    · rwa [if_pos ‹_›] at h
    · rw [if_neg ‹_›] at h
      exact ih h

theorem letter_append {t : Stretches Char} {c : Char} {found : Nat × Char}
    (h : t.find? c.toNat = some found) (rest : Stretches Char) :
    Stretches.letter (t ++ rest) c = found.2 := by
  rw [letter, find?_append h]

/-- The front of a text describes the front of its stretches. -/
theorem ofText_append {text front : String} {back : List Char}
    (h : text.toList = front.toList ++ ' ' :: back) :
    ∃ rest, ofText text = ofText front ++ rest := by
  have cut : words text = words front ++
      (Text.fields ' ' (back.map fun c => if c = '\n' then ' ' else c)).filter (· ≠ []) := by
    unfold words
    rw [h, List.map_append, List.map_cons, if_neg (by decide), Text.fields_append,
      List.filter_append]
  exact ⟨_, by rw [ofText, cut, List.map_append]; rfl⟩

end Stretches

/-! ## Direction -/

/-- The front of the table of directions, with all that is said of ASCII characters. -/
def asciiDirections : String := "
  B9 X5 Be X5 O2 T3 O5 S1 C1 S1 C2 Ea C1 O6 L1a O6 L1a O4 B6"

set_option maxRecDepth 100000 in
theorem directionText_eq_append :
    ∃ front, asciiDirections.toList = front ∧ ∃ back, directionText.toList = front ++ ' ' :: back :=
  ⟨_, String.toList_ofList, _, String.toList_ofList⟩

theorem find?_asciiDirections : ∀ n : Fin 128,
    ((Stretches.ofText asciiDirections).find? n).any
      (fun found => !(Direction.ofLetter found.2).isRightToLeft) = true := by
  decide +kernel

theorem exists_table_eq_append :
    ∃ rest, Direction.table = Stretches.ofText asciiDirections ++ rest := by
  obtain ⟨_, rfl, back, split⟩ := directionText_eq_append
  exact Stretches.ofText_append split

/-- No ASCII character belongs to a text from right to left. -/
theorem isRightToLeft_of_ascii {c : Char} (h : c.toNat < 0x80) :
    (Direction.of c).isRightToLeft = false := by
  obtain ⟨rest, table⟩ := exists_table_eq_append
  obtain ⟨found, here, left⟩ := (Option.any_eq_true _ _).1 (find?_asciiDirections ⟨c.toNat, h⟩)
  rw [Direction.of, table, Stretches.letter_append here]
  simpa using left

/-! ## Mapping and composition -/

namespace HostMapping

variable {c : Char} {cs : List Char}

theorem of_of_ascii (ascii : c.toNat < 0x80) (small : c.isUpper = false) : of c = .valid := by
  rw [of, if_pos ascii, small]
  rfl

/-- The host mapping leaves ASCII texts without capital letters. -/
theorem map?_of_ascii (ascii : ∀ c ∈ cs, c.toNat < 0x80) (small : ∀ c ∈ cs, c.isUpper = false) :
    map? cs = some cs := by
  induction cs with
  | nil => rfl
  | cons c cs ih =>
    obtain ⟨own, ascii⟩ := List.forall_mem_cons.1 ascii
    obtain ⟨low, small⟩ := List.forall_mem_cons.1 small
    simp [map?, of_of_ascii own low, ih ascii small]

end HostMapping

theorem normalForm_of_ascii {cs : List Char} (ascii : ∀ c ∈ cs, c.toNat < 0x80) :
    normalForm cs = cs :=
  if_pos (List.all_eq_true.2 fun c hc => decide_eq_true (ascii c hc))

end Unicode

end Reroute
