import Reroute.Json.Basic

/-!
# Values that are the same

Values are the same if they are equal but for the signs of float zeros. So each has one canonical
form, without such signs.

## Main definitions

* `Json.canonical` — a value whose float zeros have no sign.

## Main results

* `Json.same_iff` — values are the same if and only if their canonical forms are equal.
* `Json.get?_canonical`, `Json.members?_canonical` — the parts of a canonical form.
-/

namespace Reroute

/-! ## Doubles -/

theorem Double.eqv_iff {x y : Double} :
    x.eqv y = true ↔ ∃ k, x.key? = some k ∧ y.key? = some k := by
  unfold eqv
  cases x.key? <;> cases y.key? <;> grind

theorem Double.eqv_symm {x y : Double} (h : x.eqv y = true) : y.eqv x = true := by
  obtain ⟨k, hx, hy⟩ := eqv_iff.1 h
  exact eqv_iff.2 ⟨k, hy, hx⟩

theorem Double.eqv_trans {x y z : Double} (h : x.eqv y = true) (h' : y.eqv z = true) :
    x.eqv z = true := by
  obtain ⟨k, hx, hy⟩ := eqv_iff.1 h
  obtain ⟨l, hy', hz⟩ := eqv_iff.1 h'
  obtain rfl : k = l := Option.some.inj (hy.symm.trans hy')
  exact eqv_iff.2 ⟨k, hx, hz⟩

theorem Double.eqv_refl_of_isFinite {x : Double} (h : x.isFinite = true) : x.eqv x = true := by
  cases x with
  | finite s m => exact eqv_iff.2 ⟨_, rfl, rfl⟩
  | nan => cases h
  | infinite s => cases h

/-- Numbers are equal as such if they have the same size and, unless that is zero, the same sign. -/
theorem Double.eqv_finite_iff {s t : Bool} {a b : Magnitude} :
    (finite s a).eqv (finite t b) = true ↔ a = b ∧ (a.quanta = 0 ∨ s = t) := by
  obtain ⟨a, ha⟩ := a
  obtain ⟨b, hb⟩ := b
  simp only [eqv, key?, beq_iff_eq, Magnitude.mk.injEq]
  cases s <;> cases t <;> simp <;> omega

namespace Json

/-! ## Canonical forms -/

/-- A number without the sign of a float zero. -/
def Number.canonical : Number → Number
  | .float s m => .float (s && decide (m.quanta ≠ 0)) m
  | n => n

theorem Number.same_iff {a b : Number} : a.same b = true ↔ a.canonical = b.canonical := by
  cases a <;> cases b <;> simp [same, canonical, Double.eqv_finite_iff]
  grind

mutual

/-- A value whose float zeros have no sign. -/
def canonical : Json → Json
  | .number n => .number n.canonical
  | .array items => .array (canonicalItems items)
  | .object members => .object (canonicalMembers members)
  | v => v

def canonicalItems : List Json → List Json
  | [] => []
  | v :: vs => canonical v :: canonicalItems vs

def canonicalMembers : List (String × Json) → List (String × Json)
  | [] => []
  | (k, v) :: ms => (k, canonical v) :: canonicalMembers ms

end

theorem canonicalMembers_eq_map (ms : List (String × Json)) :
    canonicalMembers ms = ms.map fun m => (m.1, m.2.canonical) := by
  induction ms with
  | nil => rfl
  | cons m ms ih => simp [canonicalMembers, ih]

theorem get?_canonical (v : Json) (key : String) :
    v.canonical.get? key = (v.get? key).map canonical := by
  cases v with
  | object members =>
    simp only [canonical, get?, canonicalMembers_eq_map]
    induction members with
    | nil => rfl
    | cons m ms ih => grind
  | _ => rfl

theorem members?_canonical (v : Json) :
    v.canonical.members? = v.members?.map fun ms => ms.map fun m => (m.1, m.2.canonical) := by
  cases v <;> simp [canonical, members?, canonicalMembers_eq_map]

theorem number?_canonical (v : Json) : v.canonical.number? = v.number?.map Number.canonical := by
  cases v <;> rfl

mutual

/-- Values are the same if and only if they have the same canonical form. -/
theorem same_iff : ∀ {v w : Json}, v.same w = true ↔ v.canonical = w.canonical
  | .number a, w => by cases w <;> simp [same, canonical, Number.same_iff]
  | .array vs, w => by
    cases w with
    | array ws => simp [same, canonical, @sameItems_iff vs ws]
    | _ => simp [same, canonical]
  | .object ms, w => by
    cases w with
    | object ns => simp [same, canonical, @sameMembers_iff ms ns]
    | _ => simp [same, canonical]
  | .null, w => by cases w <;> simp [same, canonical]
  | .bool a, w => by cases w <;> simp [same, canonical]
  | .string a, w => by cases w <;> simp [same, canonical]

theorem sameItems_iff : ∀ {vs ws : List Json},
    sameItems vs ws = true ↔ canonicalItems vs = canonicalItems ws
  | [], ws => by cases ws <;> simp [sameItems, canonicalItems]
  | v :: vs, ws => by
    cases ws with
    | nil => simp [sameItems, canonicalItems]
    | cons w ws => simp [sameItems, canonicalItems, same_iff, sameItems_iff]

theorem sameMembers_iff : ∀ {ms ns : List (String × Json)},
    sameMembers ms ns = true ↔ canonicalMembers ms = canonicalMembers ns
  | [], ns => by cases ns <;> simp [sameMembers, canonicalMembers]
  | (k, v) :: ms, ns => by
    cases ns with
    | nil => simp [sameMembers, canonicalMembers]
    | cons n ns => simp [sameMembers, canonicalMembers, same_iff, sameMembers_iff]

end

@[simp] theorem same_refl (v : Json) : v.same v = true := same_iff.2 rfl

theorem same_trans {u v w : Json} (h : u.same v = true) (h' : v.same w = true) :
    u.same w = true :=
  same_iff.2 ((same_iff.1 h).trans (same_iff.1 h'))

end Json

end Reroute
