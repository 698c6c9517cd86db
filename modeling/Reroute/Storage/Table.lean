/-!
# Tables

A table gives each of some keys a value. A key that is put again keeps its place.

## Main definitions

* `Table`, `Table.get?`, `Table.put`, `Table.erase`.
* `Table.Keyed` — no key stands in a table twice.
-/

namespace Reroute

/-- Keys and their values; the first pair of a key counts. -/
abbrev Table (κ α : Type) := List (κ × α)

namespace Table

variable {κ α : Type} [DecidableEq κ]

/-- The value of a key. -/
def get? : Table κ α → κ → Option α
  | [], _ => none
  | (l, a) :: t, k => if k = l then some a else get? t k

/-- Gives a key a value. -/
def put (k : κ) (a : α) : Table κ α → Table κ α
  | [] => [(k, a)]
  | (l, b) :: t => if k = l then (k, a) :: t else (l, b) :: put k a t

/-- Takes a key out. -/
def erase (k : κ) (t : Table κ α) : Table κ α := t.filter fun p => k ≠ p.1

/-- No key stands in a table twice. -/
def Keyed (t : Table κ α) : Prop := (t.map Prod.fst).Nodup

instance (t : Table κ α) : Decidable (Keyed t) := inferInstanceAs (Decidable (List.Nodup _))

@[simp] theorem get?_nil (k : κ) : get? ([] : Table κ α) k = none := rfl

theorem get?_put (k l : κ) (a : α) (t : Table κ α) :
    get? (put k a t) l = if l = k then some a else get? t l := by
  induction t with
  | nil => simp [put, get?]
  | cons p t ih =>
    unfold put
    split
    · rename_i h; subst h; by_cases hl : l = p.1 <;> simp [get?, hl]
    · rename_i h
      simp only [get?, ih]
      by_cases hl : l = p.1
      · subst hl; simp [Ne.symm h]
      · simp [hl]

theorem get?_erase (k l : κ) (t : Table κ α) :
    get? (erase k t) l = if l = k then none else get? t l := by
  induction t with
  | nil => simp [erase]
  | cons p t ih =>
    unfold erase at ih ⊢
    by_cases h : k = p.1
    · by_cases hl : l = k
      · simpa [List.filter_cons, h, hl] using ih
      · have : l ≠ p.1 := fun e => hl (e.trans h.symm)
        simp only [List.filter_cons, h, ne_eq, not_true_eq_false, decide_false, Bool.false_eq_true,
          if_false]
        rw [← h, ih]
        simp [get?, hl, this]
    · simp only [List.filter_cons, ne_eq, h, not_false_eq_true, decide_true, if_true, get?, ih]
      by_cases hl : l = k
      · subst hl; simp [h]
      · simp [hl]

theorem mem_of_get? {t : Table κ α} {k : κ} {a : α} (h : get? t k = some a) : (k, a) ∈ t := by
  induction t with
  | nil => cases h
  | cons p t ih =>
    unfold get? at h
    split at h
    · rename_i hk
      cases h
      exact hk ▸ List.mem_cons_self
    · exact List.mem_cons_of_mem p (ih h)

/-! ## Keyed tables -/

omit [DecidableEq κ] in
@[simp] theorem keyed_nil : Keyed ([] : Table κ α) := List.nodup_nil

omit [DecidableEq κ] in
theorem keyed_cons (k : κ) (a : α) (t : Table κ α) :
    Keyed ((k, a) :: t) ↔ k ∉ t.map Prod.fst ∧ Keyed t := List.nodup_cons

theorem Keyed.get?_of_mem {t : Table κ α} (h : Keyed t) {k : κ} {a : α} (hm : (k, a) ∈ t) :
    get? t k = some a := by
  induction t with
  | nil => cases hm
  | cons p t ih =>
    obtain ⟨hp, ht⟩ := (keyed_cons p.1 p.2 t).1 h
    rcases List.mem_cons.1 hm with rfl | hm
    · simp [get?]
    · have other : k ≠ p.1 := fun e => hp (e ▸ List.mem_map_of_mem hm)
      simp [get?, other, ih ht hm]

theorem mem_keys_put (k l : κ) (a : α) (t : Table κ α) :
    l ∈ (put k a t).map Prod.fst ↔ l = k ∨ l ∈ t.map Prod.fst := by
  induction t with
  | nil => simp [put]
  | cons p t ih =>
    unfold put
    split
    · rename_i h; subst h; simp
    · simp only [List.map_cons, List.mem_cons, ih]
      exact or_left_comm

theorem Keyed.put {t : Table κ α} (h : Keyed t) (k : κ) (a : α) : Keyed (put k a t) := by
  induction t with
  | nil => simp [Table.put, Keyed]
  | cons p t ih =>
    obtain ⟨hp, ht⟩ := (keyed_cons p.1 p.2 t).1 h
    unfold Table.put
    split
    · rename_i hk; subst hk; exact h
    · rename_i hk
      refine (keyed_cons ..).2 ⟨?_, ih ht⟩
      rw [mem_keys_put]
      exact not_or.2 ⟨Ne.symm hk, hp⟩

theorem Keyed.erase {t : Table κ α} (h : Keyed t) (k : κ) : Keyed (erase k t) :=
  List.Sublist.nodup (List.Sublist.map _ List.filter_sublist) h

end Table

end Reroute
