import Reroute.Proofs.Json.Numerals
import Reroute.Proofs.Json.Same

/-!
# Plain values

The texts of two values that hold no negative zero are equal exactly if the values are the same, as
far as their floats are read back.

## Main definitions

* `Json.Plain` — a value of limited depth without a negative zero, whose floats are read back.

## Main results

* `Json.Plain.read?_print` — plain values are read back from their texts.
* `Json.Plain.same_iff`, `Json.Plain.print_inj` — plain values that are the same, or have the same
  text, are equal.
-/

namespace Reroute

namespace Json

/-! ## Numbers -/

namespace Number

/-- A whole number, or a float other than the negative zero that is read back from its text. -/
def Plain : Number → Prop
  | .float s m => read? (Number.float s m).chars = some (.float s m, []) ∧ (s = true → m.quanta ≠ 0)
  | _ => True

theorem Plain.legible {n : Number} (h : n.Plain) : n.Legible := by
  cases n with
  | natural n => exact legible_natural n
  | negSucc n small => exact legible_negSucc n small
  | float s m => exact legible_iff.2 h.1

theorem Plain.canonical_eq {n : Number} (h : n.Plain) : n.canonical = n := by
  cases n with
  | float s m =>
    cases s with
    | false => rfl
    | true => simp [canonical, h.2 rfl]
  | _ => rfl

end Number

/-! ## Values -/

mutual

/-- A value that fits into a depth, with ordered members and plain numbers. -/
def Plain : Nat → Json → Prop
  | _, .number n => n.Plain
  | depth + 1, .array items => PlainItems depth items
  | depth + 1, .object members =>
    (members.map Prod.fst).Pairwise (· < ·) ∧ PlainMembers depth members
  | 0, .array _ | 0, .object _ => False
  | _, _ => True

def PlainItems : Nat → List Json → Prop
  | _, [] => True
  | depth, v :: vs => Plain depth v ∧ PlainItems depth vs

def PlainMembers : Nat → List (String × Json) → Prop
  | _, [] => True
  | depth, (_, v) :: ms => Plain depth v ∧ PlainMembers depth ms

end

mutual

/-- A plain value is read back, and it is its canonical form. -/
theorem Plain.spec : ∀ {depth : Nat} {v : Json}, Plain depth v →
    Legible depth v ∧ v.canonical = v
  | _, .null, _ | _, .bool _, _ | _, .string _, _ => by simp [Legible, canonical]
  | _, .number n, h => by
    have plain : n.Plain := by simpa only [Plain] using h
    simp only [Legible, canonical, plain.legible, plain.canonical_eq, and_self]
  | depth + 1, .array vs, h => by
    have items : LegibleItems depth vs ∧ canonicalItems vs = vs := PlainItems.spec h
    exact ⟨items.1, congrArg Json.array items.2⟩
  | depth + 1, .object ms, h => by
    have members : LegibleMembers depth ms ∧ canonicalMembers ms = ms := PlainMembers.spec h.2
    exact ⟨⟨h.1, members.1⟩, congrArg Json.object members.2⟩
  | 0, .array _, h | 0, .object _, h => h.elim

theorem PlainItems.spec : ∀ {depth : Nat} {vs : List Json}, PlainItems depth vs →
    LegibleItems depth vs ∧ canonicalItems vs = vs
  | _, [], _ => ⟨trivial, rfl⟩
  | depth, v :: vs, h => by
    have first : Legible depth v ∧ v.canonical = v := Plain.spec h.1
    have rest : LegibleItems depth vs ∧ canonicalItems vs = vs := PlainItems.spec h.2
    exact ⟨⟨first.1, rest.1⟩, by rw [canonicalItems, first.2, rest.2]⟩

theorem PlainMembers.spec : ∀ {depth : Nat} {ms : List (String × Json)}, PlainMembers depth ms →
    LegibleMembers depth ms ∧ canonicalMembers ms = ms
  | _, [], _ => ⟨trivial, rfl⟩
  | depth, (k, v) :: ms, h => by
    have first : Legible depth v ∧ v.canonical = v := Plain.spec h.1
    have rest : LegibleMembers depth ms ∧ canonicalMembers ms = ms := PlainMembers.spec h.2
    exact ⟨⟨first.1, rest.1⟩, by rw [canonicalMembers, first.2, rest.2]⟩

end

theorem Plain.read?_print {v : Json} (h : Plain maxDepth v) : read? v.print = some v :=
  Json.read?_print h.spec.1

/-- Plain values are the same only if they are equal. -/
theorem Plain.same_iff {depth : Nat} {v w : Json} (hv : Plain depth v) (hw : Plain depth w) :
    v.same w = true ↔ v = w := by
  rw [Json.same_iff, hv.spec.2, hw.spec.2]

/-- Plain values have different texts unless they are equal. -/
theorem Plain.print_inj {v w : Json} (hv : Plain maxDepth v) (hw : Plain maxDepth w) :
    v.print = w.print ↔ v = w := by
  refine ⟨fun same => ?_, congrArg print⟩
  have read := hv.read?_print
  rw [same, hw.read?_print] at read
  exact (Option.some.inj read).symm

end Json

end Reroute
