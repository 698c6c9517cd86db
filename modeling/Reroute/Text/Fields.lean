/-!
# Fields of a text

A text is cut at every occurrence of a separator, and fields are joined with it again.

## Main definitions

* `Text.fields` — the pieces between separators, `Text.join` — pieces with separators between.
-/

namespace Reroute.Text

/-- The pieces of a text between the separators; there is always at least one. -/
def fields (sep : Char) : List Char → List (List Char)
  | [] => [[]]
  | c :: cs =>
    if c = sep then [] :: fields sep cs
    else match fields sep cs with
      | [] => [[c]]
      | w :: ws => (c :: w) :: ws

/-- Pieces with a separator between each two. -/
def join (sep : List Char) : List (List Char) → List Char
  | [] => []
  | [w] => w
  | w :: ws => w ++ sep ++ join sep ws

theorem fields_ne_nil (sep : Char) (cs : List Char) : fields sep cs ≠ [] := by
  cases cs with
  | nil => simp [fields]
  | cons c cs =>
    unfold fields
    split
    · simp
    · split <;> simp

/-- Joining the fields gives the text back. -/
theorem join_fields (sep : Char) (cs : List Char) : join [sep] (fields sep cs) = cs := by
  induction cs with
  | nil => rfl
  | cons c cs ih =>
    unfold fields
    split
    · rename_i hc
      subst hc
      cases hf : fields c cs with
      | nil => exact absurd hf (fields_ne_nil c cs)
      | cons v vs => rw [hf] at ih; simp [join, ih]
    · cases hf : fields sep cs with
      | nil => exact absurd hf (fields_ne_nil sep cs)
      | cons v vs =>
        rw [hf] at ih
        cases vs with
        | nil => simpa [join] using ih
        | cons u us => simpa [join] using ih

/-- A text is cut at a separator into the fields before and after. -/
theorem fields_append (sep : Char) (front back : List Char) :
    fields sep (front ++ sep :: back) = fields sep front ++ fields sep back := by
  induction front with
  | nil => simp [fields]
  | cons c front ih =>
    by_cases h : c = sep
    · simp [fields, h, ih]
    · simp only [List.cons_append, fields, h, if_false, ih]
      cases hf : fields sep front with
      | nil => exact absurd hf (fields_ne_nil sep front)
      | cons w ws => rfl

/-- A text without the separator is its only field. -/
theorem fields_of_notMem {sep : Char} {cs : List Char} (h : sep ∉ cs) : fields sep cs = [cs] := by
  induction cs with
  | nil => rfl
  | cons c cs ih =>
    simp only [List.mem_cons, not_or] at h
    simp only [fields, Ne.symm h.1, if_false, ih h.2]

end Reroute.Text
