import Reroute.Proofs.Hostname

/-!
# The grammar of source hostnames

A text is accepted as a source hostname if and only if what it is in small letters, without blanks
around it, is derived by a grammar. A name is two or more labels with points between. A label is one
or more small letters, digits and hyphens, with no hyphen at its ends.

Of the small letters of characters that are not ASCII, only that of the kelvin sign is ASCII. So the
small letters of all others do not matter here, for no label holds them.

## Main definitions

* `Hostname.Label`, `Hostname.Derived` — the grammar.
* `Hostname.Lowered` — what a text is in small letters.
* `Hostname.refusing` — the hostname that a text asks for, some signs being refused at once.

## Main results

* `Hostname.derived_iff` — the grammar derives the source hostnames.
* `Hostname.Lowered.eq_map` — which small letters matter.
* `Hostname.ofInput_iff_derived` — the texts that are accepted.
-/

namespace Reroute.Hostname

/-! ## Grammar -/

/-- A label: one or more small letters, digits and hyphens, with no hyphen at its ends. -/
structure Label (w : List Char) : Prop where
  nonempty : w ≠ []
  chars : ∀ c ∈ w, 'a' ≤ c ∧ c ≤ 'z' ∨ '0' ≤ c ∧ c ≤ '9' ∨ c = '-'
  front : ¬['-'] <+: w
  back : ¬['-'] <:+ w

/-- A name: a label, and then a point and a label or a longer rest. -/
inductive Derived : List Char → Prop
  | two {u v : List Char} (hu : Label u) (hv : Label v) : Derived (u ++ '.' :: v)
  | more {u rest : List Char} (hu : Label u) (hrest : Derived rest) : Derived (u ++ '.' :: rest)

theorem label_iff {w : List Char} : Label w ↔ isLabel w = true := by
  have front : ['-'] <+: w ↔ w.head? = some '-' := by cases w <;> simp [eq_comm]
  have back : ['-'] <:+ w ↔ w.getLast? = some '-' := by
    rw [← List.reverse_prefix, List.getLast?_eq_head?_reverse]
    cases w.reverse <;> simp [eq_comm]
  have chars (c : Char) :
      isLabelChar c = true ↔ 'a' ≤ c ∧ c ≤ 'z' ∨ '0' ≤ c ∧ c ≤ '9' ∨ c = '-' := by
    simp [isLabelChar, or_assoc]
  simp only [isLabel_iff, chars, ne_eq, ← front, ← back]
  exact ⟨fun h => ⟨h.nonempty, h.front, h.back, h.chars⟩, fun h => ⟨h.1, h.2.2.2, h.2.1, h.2.2.1⟩⟩

theorem Label.fields {w : List Char} (h : Label w) : Text.fields '.' w = [w] := by
  refine Text.fields_of_notMem fun point => ?_
  have := h.chars '.' point
  revert this
  decide

/-- The label before a point is the first field. -/
theorem Label.fields_append {u : List Char} (h : Label u) (rest : List Char) :
    Text.fields '.' (u ++ '.' :: rest) = u :: Text.fields '.' rest := by
  rw [Text.fields_append, h.fields, List.singleton_append]

variable {name : List Char}

theorem Derived.isName (h : Derived name) : IsName name := by
  induction h with
  | two hu hv =>
    constructor
    · simp [hu.fields_append, hv.fields]
    · simpa [hu.fields_append, hv.fields] using ⟨label_iff.1 hu, label_iff.1 hv⟩
  | more hu hrest ih =>
    constructor
    · simpa [hu.fields_append] using Nat.le_succ_of_le ih.several
    · simpa [hu.fields_append] using ⟨label_iff.1 hu, ih.labels⟩

/-- Labels with points between make a name. -/
theorem derived_join {ws : List (List Char)} (several : 2 ≤ ws.length)
    (labels : ∀ w ∈ ws, Label w) : Derived (Text.join ['.'] ws) := by
  induction ws with
  | nil => exact absurd several (by simp)
  | cons u ws ih =>
    obtain ⟨hu, labels⟩ := List.forall_mem_cons.1 labels
    match ws with
    | [] => exact absurd several (by simp)
    | [v] => simpa [Text.join] using Derived.two hu (labels v List.mem_cons_self)
    | v :: w :: ws =>
      have rest : Derived (Text.join ['.'] (v :: w :: ws)) := ih (by simp) labels
      simpa [Text.join] using Derived.more hu rest

/-- The grammar derives the source hostnames. -/
theorem derived_iff : Derived name ↔ IsName name := by
  refine ⟨Derived.isName, fun h => ?_⟩
  have derived := derived_join h.several fun w hw => label_iff.2 (h.labels w hw)
  rwa [Text.join_fields] at derived

/-! ## Small letters -/

/-- What a text is in small letters, as the letters of Unicode are paired. Characters are taken one
after the other. The small letter of an ASCII letter is ASCII, and other ASCII characters stay. What
becomes of another character than the kelvin sign is not all ASCII. -/
inductive Lowered : List Char → List Char → Prop
  | nil : Lowered [] []
  | ascii {c : Char} {cs ds : List Char} (hc : c.toNat < 0x80) (rest : Lowered cs ds) :
    Lowered (c :: cs) (c.toLower :: ds)
  | kelvin {cs ds : List Char} (rest : Lowered cs ds) : Lowered ('\u212A' :: cs) ('k' :: ds)
  | other {c : Char} {part cs ds : List Char} (hc : 0x80 ≤ c.toNat) (plain : c ≠ '\u212A')
    (foreign : ∃ d ∈ part, 0x80 ≤ d.toNat) (rest : Lowered cs ds) :
    Lowered (c :: cs) (part ++ ds)

variable {cs ds : List Char}

theorem lower_of_ascii {c : Char} (h : c.toNat < 0x80) : lower c = c.toLower := by
  refine if_neg ?_
  rintro rfl
  exact absurd h (by decide)

theorem lower_of_other {c : Char} (h : 0x80 ≤ c.toNat) (plain : c ≠ '\u212A') : lower c = c := by
  have capital : ¬(c.val ≥ 'A'.val ∧ c.val ≤ 'Z'.val) := by
    rintro ⟨-, bound⟩
    have bound : c.toNat ≤ 'Z'.toNat := bound
    have last : 'Z'.toNat = 90 := by decide
    omega
  have same : c.toLower = c := dif_neg capital
  rw [lower, if_neg plain, same]

/-- A text has small letters as they are normalized. -/
theorem lowered_map_lower (cs : List Char) : Lowered cs (cs.map lower) := by
  induction cs with
  | nil => exact .nil
  | cons c cs ih =>
    by_cases ascii : c.toNat < 0x80
    · simpa [lower_of_ascii ascii] using ih.ascii ascii
    · by_cases sign : c = '\u212A'
      · subst sign
        exact ih.kelvin
      · have high : 0x80 ≤ c.toNat := Nat.le_of_not_lt ascii
        have own : ∃ d ∈ [c], 0x80 ≤ d.toNat := ⟨c, List.mem_singleton_self c, high⟩
        simpa [lower_of_other high sign] using ih.other high sign own

/-- All ways to write a text in small letters agree if one of them is ASCII. -/
theorem Lowered.eq_map (low : Lowered cs ds)
    (ascii : (∀ d ∈ ds, d.toNat < 0x80) ∨ ∀ d ∈ cs.map lower, d.toNat < 0x80) :
    ds = cs.map lower := by
  induction low with
  | nil => rfl
  | ascii hc rest ih =>
    rw [List.map_cons, lower_of_ascii hc] at ascii ⊢
    rw [ih (ascii.imp (List.forall_mem_cons.1 · |>.2) (List.forall_mem_cons.1 · |>.2))]
  | kelvin rest ih =>
    rw [ih (ascii.imp (List.forall_mem_cons.1 · |>.2) (List.forall_mem_cons.1 · |>.2))]
    rfl
  | other hc plain foreign rest ih =>
    obtain ⟨d, member, high⟩ := foreign
    rcases ascii with ascii | ascii
    · exact absurd (ascii d (List.mem_append_left _ member)) (Nat.not_lt.2 high)
    · rw [List.map_cons, lower_of_other hc plain] at ascii
      exact absurd (List.forall_mem_cons.1 ascii).1 (Nat.not_lt.2 hc)

/-- All ways to write a text in small letters agree if one of them is a name. -/
theorem Lowered.isName_iff (low : Lowered cs name) :
    IsName name ↔ IsName (cs.map lower) ∧ name = cs.map lower := by
  refine ⟨fun h => ?_, fun ⟨h, same⟩ => same ▸ h⟩
  have same := low.eq_map (.inl h.ascii)
  exact ⟨same ▸ h, same⟩

/-! ## Acceptance -/

/-- The hostname that a text asks for, some signs being refused at once wherever they stand. -/
def refusing (signs : Char → Bool) (raw : String) : Except Refusal String :=
  let name := normalize raw.toList
  if name = [] ∨ name.any signs then .error .invalidHostname
  else
    let labels := Text.fields '.' name
    if labels.length < 2 ∨ !labels.all isLabel then .error .invalidHostname
    else .ok (String.ofList name)

theorem refusing_isUrlSign (raw : String) : refusing isUrlSign raw = ofInput raw := rfl

variable {signs : Char → Bool} {raw : String}

/-- A name holds no sign of a URL, so it is accepted whichever of them are refused. -/
theorem refusing_of_isName (among : ∀ c, signs c = true → isUrlSign c = true)
    (h : IsName (normalize raw.toList)) :
    refusing signs raw = .ok (String.ofList (normalize raw.toList)) := by
  have unsigned : (normalize raw.toList).any signs = false := by
    refine List.any_eq_false.2 fun c hc sign => ?_
    have plain : isUrlSign c = false :=
      forall_char (p := fun c => isUrlSign c = false) (by decide +kernel) (h.allowed c hc)
    exact absurd (among c sign) (by simp [plain])
  have several : ¬(Text.fields '.' (normalize raw.toList)).length < 2 := Nat.not_lt.2 h.several
  have labels : (Text.fields '.' (normalize raw.toList)).all isLabel = true :=
    List.all_eq_true.2 h.labels
  simp only [refusing, h.ne_nil, unsigned, several, labels, Bool.not_true, Bool.false_eq_true,
    or_self, if_false]

/-- Whatever is refused at once, a text that is no name is refused. -/
theorem refusing_of_not_isName (h : ¬IsName (normalize raw.toList)) :
    refusing signs raw = .error .invalidHostname := by
  unfold refusing
  dsimp only
  split
  · rfl
  · refine if_pos (Classical.byContradiction fun fits => h ?_)
    simp only [not_or, Bool.not_eq_true', Bool.not_eq_false, List.all_eq_true] at fits
    exact ⟨Nat.le_of_not_lt fits.1, fits.2⟩

/-- A text is accepted if and only if the grammar derives what it is in small letters without blanks
around it; this is then the hostname, and it is accepted as it stands. All other texts are refused
as no hostname. It makes no difference which of the signs of a URL are refused at once. -/
theorem ofInput_iff_derived (low : Lowered (Text.trim raw.toList) name) :
    (ofInput raw = .ok (String.ofList name) ↔ Derived name) ∧
    (∀ e, ofInput raw = .error e ↔ e = .invalidHostname ∧ ¬Derived name) ∧
    (∀ source, ofInput raw = .ok source →
      source = String.ofList name ∧ ofInput source = .ok source) ∧
    ∀ signs : Char → Bool, (∀ c, signs c = true → isUrlSign c = true) →
      refusing signs raw = ofInput raw := by
  have normal : IsName name ↔ IsName (normalize raw.toList) ∧ name = normalize raw.toList :=
    low.isName_iff
  rw [derived_iff, ← refusing_isUrlSign raw]
  by_cases h : IsName (normalize raw.toList)
  · have same : name = normalize raw.toList := low.eq_map (.inr h.ascii)
    have accepted {signs : Char → Bool} (among : ∀ c, signs c = true → isUrlSign c = true) :
        refusing signs raw = .ok (String.ofList name) := same ▸ refusing_of_isName among h
    have again : ofInput (String.ofList name) = .ok (String.ofList name) :=
      ofInput_of_isName (by rwa [String.toList_ofList, same])
    rw [accepted fun _ => id]
    refine ⟨by simp [h, same], by simp [h, same], ?_, fun signs => accepted⟩
    rintro source ⟨⟩
    exact ⟨rfl, again⟩
  · rw [refusing_of_not_isName h]
    refine ⟨by simp [normal, h], by simp [normal, h, eq_comm], nofun, fun signs _ => ?_⟩
    exact refusing_of_not_isName h

/-- A text with blanks, capital letters and the kelvin sign. -/
theorem ofInput_iff_derived_kelvin :
    let raw := " Old-1.\u212AiK.COM\t"
    let name := "old-1.kik.com".toList
    Lowered (Text.trim raw.toList) name ∧ Derived name ∧
      ofInput raw = .ok (String.ofList name) ∧
      ofInput (String.ofList name) = .ok (String.ofList name) := by
  intro raw name
  have low : Lowered (Text.trim raw.toList) name := by
    have same : (Text.trim raw.toList).map lower = name := by decide +kernel
    exact same ▸ lowered_map_lower _
  have derived : Derived name := derived_iff.2 ⟨by decide +kernel, by decide +kernel⟩
  obtain ⟨accepted, -, fixed, -⟩ := ofInput_iff_derived low
  have ok := accepted.2 derived
  exact ⟨low, derived, ok, (fixed _ ok).2⟩

end Reroute.Hostname
