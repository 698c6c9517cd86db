import Reroute.Host.Domain
import Reroute.Proofs.Host.Punycode
import Reroute.Proofs.Hostname
import Reroute.Proofs.Unicode.Ascii

/-!
# Source hostnames as domain names

A source hostname is a domain name in its ASCII form already: if it is a domain name at all, it is
written as it stands. A label that is marked as an ASCII form is decoded and encoded again, which
gives it back.

## Main results

* `Domain.eq_of_toAscii?` — a source hostname is its own domain name.
* `Domain.toAscii?_of_unmarked` — without marked labels it is one.
-/

namespace Reroute

/-- A list is gone through with a result if every item has one. -/
theorem mapM_eq_some_iff {α β : Type} {f : α → Option β} {xs : List α} {ys : List β} :
    xs.mapM f = some ys ↔ xs.map f = ys.map some := by
  induction xs generalizing ys with
  | nil => cases ys <;> simp
  | cons x xs ih =>
    cases ys with
    | nil => simp [List.mapM_cons, Option.bind_eq_some_iff]
    | cons y ys => simp [List.mapM_cons, Option.bind_eq_some_iff, ih]

theorem Hostname.isLabelChar_iff {c : Char} :
    Hostname.isLabelChar c = true ↔ Punycode.isCodeChar c = true ∨ c = '-' := by
  simp [Hostname.isLabelChar, Punycode.isCodeChar]

namespace Domain

open Unicode

variable {label name out : List Char}

/-- A label that is decoded is encoded to itself. -/
theorem asciiLabel_of_unicodeLabel? (h : Hostname.isLabel label = true)
    (undone : unicodeLabel? label = some out) : asciiLabel out = label := by
  obtain ⟨-, -, last, chars⟩ := Hostname.isLabel_iff.1 h
  unfold unicodeLabel? at undone
  split at undone
  · rename_i marked
    obtain ⟨code, rfl⟩ := marked
    have behind : (codeMark ++ code).drop 4 = code := rfl
    simp only [behind] at undone
    split at undone
    · cases undone
    · rename_i fits
      simp only [not_or] at fits
      obtain ⟨decoded, -⟩ := Option.filter_eq_some_iff.1 undone
      obtain ⟨encoded, other⟩ := Punycode.encode_of_decode? decoded
        (fun c hc => Hostname.isLabelChar_iff.1 (chars c (List.mem_append_right _ hc)))
        fits.1 fits.2.1
      rw [asciiLabel, other, encoded]
      rfl
  · cases undone
    have ascii : label.all (·.toNat < 0x80) = true :=
      List.all_eq_true.2 fun c hc => decide_eq_true (Hostname.ascii_of_isLabel h c hc)
    rw [asciiLabel, if_pos ascii]

/-- Labels that are undone one by one are written as they were. -/
theorem map_asciiLabel_of_mapM {labels undone : List (List Char)}
    (h : ∀ label ∈ labels, Hostname.isLabel label = true)
    (all : labels.mapM unicodeLabel? = some undone) : undone.map asciiLabel = labels := by
  rw [mapM_eq_some_iff] at all
  induction labels generalizing undone with
  | nil => simpa using all.symm
  | cons label labels ih =>
    obtain ⟨own, h⟩ := List.forall_mem_cons.1 h
    obtain ⟨first, rest, rfl, hfirst, hrest⟩ := List.map_eq_cons_iff.1 all.symm
    rw [List.map_cons, asciiLabel_of_unicodeLabel? own hfirst.symm, ih h hrest.symm]

/-- The mapping leaves a source hostname, so only its labels are looked at. -/
theorem toAscii?_of_isName (h : Hostname.IsName name) :
    toAscii? name = ((Text.fields '.' name).mapM unicodeLabel?).bind fun labels =>
      if labels.all labelFits && directionsFit labels then
        some (Text.join ['.'] (labels.map asciiLabel)) else none := by
  have small : ∀ c ∈ name, c.isUpper = false := fun c hc =>
    Hostname.forall_char (p := fun c => c.isUpper = false) (by decide +kernel) (h.allowed c hc)
  rw [toAscii?, HostMapping.map?_of_ascii h.ascii small]
  simp only [Option.bind_eq_bind, Option.bind_some, normalForm_of_ascii h.ascii]

/-- A source hostname is its own domain name, if it is a domain name. -/
theorem eq_of_toAscii? (h : Hostname.IsName name) (ascii : toAscii? name = some out) :
    out = name := by
  rw [toAscii?_of_isName h] at ascii
  obtain ⟨labels, undone, fits⟩ := Option.bind_eq_some_iff.1 ascii
  split at fits
  · cases fits
    rw [map_asciiLabel_of_mapM h.labels undone, Text.join_fields]
  · cases fits

theorem mapM_unicodeLabel?_of_unmarked {labels : List (List Char)}
    (unmarked : ∀ label ∈ labels, ¬codeMark <+: label) :
    labels.mapM unicodeLabel? = some labels :=
  mapM_eq_some_iff.2 (List.map_congr_left fun label hlabel => if_neg (unmarked label hlabel))

theorem labelFits_of_isLabel (h : Hostname.isLabel label = true) : labelFits label = true := by
  have chars := (Hostname.isLabel_iff.1 h).2.2.2
  have permitted : ∀ c ∈ label, isForbidden c = false := fun c hc =>
    Hostname.forall_char (p := fun c => isForbidden c = false) (by decide +kernel)
      (.inl (chars c hc))
  have ascii := Hostname.ascii_of_isLabel h
  simp only [labelFits, Bool.and_eq_true, Bool.or_eq_true, Bool.not_eq_true', List.any_eq_false,
    List.all_eq_true]
  exact ⟨fun c hc => by simp [permitted c hc], .inl fun c hc => by simp [ascii c hc]⟩

theorem any_isRightToLeft {f : Char → Direction} {labels : List (List Char)}
    (h : ∀ label ∈ labels, ∀ c ∈ label, (f c).isRightToLeft = false) :
    ((labels.map fun l => l.map f).any fun d => d.any Direction.isRightToLeft) = false := by
  simpa using h

theorem directionsFit_of_ascii {labels : List (List Char)}
    (ascii : ∀ label ∈ labels, ∀ c ∈ label, c.toNat < 0x80) : directionsFit labels = true := by
  have left := any_isRightToLeft (f := Direction.of) fun label hlabel c hc =>
    isRightToLeft_of_ascii (ascii label hlabel c hc)
  rw [directionsFit, left, Bool.not_false, Bool.true_or]

/-- Without marked labels a source hostname is a domain name. -/
theorem toAscii?_of_unmarked (h : Hostname.IsName name)
    (unmarked : ∀ label ∈ Text.fields '.' name, ¬codeMark <+: label) :
    toAscii? name = some name := by
  have left := mapM_unicodeLabel?_of_unmarked unmarked
  have fits : (Text.fields '.' name).all labelFits && directionsFit (Text.fields '.' name) := by
    rw [Bool.and_eq_true, List.all_eq_true]
    exact ⟨fun label hlabel => labelFits_of_isLabel (h.labels label hlabel),
      directionsFit_of_ascii fun label hlabel => Hostname.ascii_of_isLabel (h.labels label hlabel)⟩
  rw [toAscii?_of_isName h, left, Option.bind_some, if_pos fits,
    map_asciiLabel_of_mapM h.labels left, Text.join_fields]

end Domain

end Reroute
