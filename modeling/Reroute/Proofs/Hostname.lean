import Reroute.Hostname

/-!
# Source hostnames

The hostnames that are accepted, and their characters: all are ASCII, and few.

## Main definitions

* `Hostname.IsName` — the texts that are source hostnames.

## Main results

* `Hostname.isName_of_ofInput` — what is accepted is a source hostname.
* `Hostname.ofInput_of_isName` — a source hostname is accepted as it stands.
* `Hostname.forall_char` — to check a property of all characters of source hostnames.
-/

namespace Reroute

/-- What holds of the first 128 characters holds of all that are ASCII. -/
theorem forall_of_ascii {p : Char → Prop} (h : ∀ n : Fin 128, p (Char.ofNat n)) {c : Char}
    (ascii : c.toNat < 0x80) : p c := by
  have own := h ⟨c.toNat, ascii⟩
  rwa [Char.ofNat_toNat] at own

namespace Text

variable {sep c : Char} {cs : List Char}

/-- A character is the separator or stands in a field. -/
theorem mem_fields_of_mem (h : c ∈ cs) : c = sep ∨ ∃ w ∈ fields sep cs, c ∈ w := by
  induction cs with
  | nil => cases h
  | cons d ds ih =>
    by_cases cut : d = sep
    · simp only [fields, cut, if_true]
      rcases List.mem_cons.1 h with own | later
      · exact .inl (own.trans cut)
      · rcases ih later with point | ⟨w, hw, member⟩
        · exact .inl point
        · exact .inr ⟨w, List.mem_cons_of_mem _ hw, member⟩
    · simp only [fields, cut, if_false]
      cases hf : fields sep ds with
      | nil => exact absurd hf (fields_ne_nil sep ds)
      | cons w ws =>
        simp only [hf, List.mem_cons, exists_eq_or_imp] at h ih ⊢
        exact h.elim (fun own => .inr (.inl (.inl own))) fun later =>
          (ih later).imp_right (Or.imp_left .inr)

theorem dropWhile_eq_self {p : Char → Bool} {cs : List Char} (h : ∀ c ∈ cs, p c = false) :
    cs.dropWhile p = cs := by
  cases cs with
  | nil => rfl
  | cons c cs => exact List.dropWhile_cons_of_neg (by simp [h c])

/-- A text without blanks is left. -/
theorem trim_eq_self (h : ∀ c ∈ cs, isBlank c = false) : trim cs = cs := by
  rw [trim, dropWhile_eq_self h, trimEnd,
    dropWhile_eq_self fun c hc => h c (List.mem_reverse.1 hc), List.reverse_reverse]

end Text

namespace Hostname

/-- A source hostname: labels with points between. -/
structure IsName (name : List Char) : Prop where
  several : 2 ≤ (Text.fields '.' name).length
  labels : ∀ label ∈ Text.fields '.' name, isLabel label = true

theorem isName_of_ofInput {raw source : String} (h : ofInput raw = .ok source) :
    IsName source.toList := by
  simp only [ofInput] at h
  split at h
  · cases h
  · split at h
    · cases h
    · rename_i fits
      cases h
      simp only [not_or, Bool.not_eq_true', Bool.not_eq_false, List.all_eq_true] at fits
      rw [String.toList_ofList]
      exact ⟨Nat.le_of_not_lt fits.1, fits.2⟩

/-- A label has characters, which are small letters, digits and hyphens, and no hyphen at its
ends. -/
theorem isLabel_iff {label : List Char} : isLabel label = true ↔ label ≠ [] ∧
    label.head? ≠ some '-' ∧ label.getLast? ≠ some '-' ∧ ∀ c ∈ label, isLabelChar c = true := by
  simp [isLabel, and_assoc]

theorem toNat_lt_of_isLabelChar {c : Char} (h : isLabelChar c = true ∨ c = '.') :
    c.toNat < 0x80 := by
  have order : ∀ x y : Char, x ≤ y ↔ x.toNat ≤ y.toNat := fun x y => Iff.rfl
  have marks : 'z'.toNat = 122 ∧ '9'.toNat = 57 ∧ '-'.toNat = 45 ∧ '.'.toNat = 46 := by decide
  simp only [isLabelChar, Bool.or_eq_true, Bool.and_eq_true, decide_eq_true_eq, order] at h
  rcases h with ((letter | digit) | rfl) | rfl <;> omega

theorem ascii_of_isLabel {label : List Char} (h : isLabel label = true) :
    ∀ c ∈ label, c.toNat < 0x80 :=
  fun c hc => toNat_lt_of_isLabelChar (.inl ((isLabel_iff.1 h).2.2.2 c hc))

/-- What holds of the characters that may stand in a source hostname. -/
theorem forall_char {p : Char → Prop}
    (h : ∀ n : Fin 128, isLabelChar (Char.ofNat n) = true ∨ Char.ofNat n = '.' → p (Char.ofNat n))
    {c : Char} (allowed : isLabelChar c = true ∨ c = '.') : p c :=
  forall_of_ascii (p := fun c => isLabelChar c = true ∨ c = '.' → p c) h
    (toNat_lt_of_isLabelChar allowed) allowed

theorem IsName.allowed {name : List Char} (h : IsName name) :
    ∀ c ∈ name, isLabelChar c = true ∨ c = '.' := by
  intro c hc
  rcases Text.mem_fields_of_mem hc with point | ⟨label, hlabel, member⟩
  · exact .inr point
  · exact .inl ((isLabel_iff.1 (h.labels label hlabel)).2.2.2 c member)

theorem IsName.ne_nil {name : List Char} (h : IsName name) : name ≠ [] := by
  rintro rfl
  exact absurd h.several (by decide)

theorem IsName.ascii {name : List Char} (h : IsName name) : ∀ c ∈ name, c.toNat < 0x80 :=
  fun c hc => toNat_lt_of_isLabelChar (h.allowed c hc)

/-- A source hostname is accepted as it stands. -/
theorem ofInput_of_isName {source : String} (h : IsName source.toList) :
    ofInput source = .ok source := by
  have plain : ∀ c ∈ source.toList, Text.isBlank c = false ∧ lower c = c ∧ isUrlSign c = false :=
    fun c hc => forall_char (p := fun c => Text.isBlank c = false ∧ lower c = c ∧
      isUrlSign c = false) (by decide +kernel) (h.allowed c hc)
  have same : normalize source.toList = source.toList := by
    rw [normalize, Text.trim_eq_self fun c hc => (plain c hc).1]
    exact List.map_congr_left (fun c hc => (plain c hc).2.1) |>.trans (List.map_id _)
  have signless : source.toList.any isUrlSign = false := by
    simpa using fun c hc => (plain c hc).2.2
  have several : ¬(Text.fields '.' source.toList).length < 2 := Nat.not_lt.2 h.several
  have labels : (Text.fields '.' source.toList).all isLabel = true := List.all_eq_true.2 h.labels
  simp only [ofInput, same, h.ne_nil, signless, several, labels, Bool.not_true, Bool.false_eq_true,
    or_self, if_false, String.ofList_toList]

end Hostname

end Reroute
