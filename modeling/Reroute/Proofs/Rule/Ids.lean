import Reroute.Proofs.Rule.Stored

/-!
# Ids of rules that are loaded

A rule keeps the id that its item brings, and takes one from the supply if the item brings none. If
the ids to come are new, different items make rules with different ids.

## Main definitions

* `Supply.Fresh` — the ids to come are new and differ from each other.
* `Rule.ids`, `Rule.storedIds` — the ids of rules, and those that the items of a value bring.

## Main results

* `Rule.storedIds_encodeList` — rules that are saved bring their ids.
* `Rule.keyed_listOfStored` — the ids of rules that are loaded differ.
-/

namespace Reroute

/-- The ids to come are not empty, differ from each other, and are not taken. -/
structure Supply.Fresh (ids : Supply) (taken : List String) : Prop where
  nonempty : ∀ n, ids.used ≤ n → ids.id n ≠ ""
  injective : ∀ i j, ids.used ≤ i → ids.used ≤ j → ids.id i = ids.id j → i = j
  apart : ∀ n, ids.used ≤ n → ids.id n ∉ taken

namespace Supply.Fresh

variable {ids : Supply} {taken : List String}

theorem mono (h : ids.Fresh taken) {taken' : List String} (sub : ∀ id ∈ taken', id ∈ taken) :
    ids.Fresh taken' :=
  ⟨h.nonempty, h.injective, fun n hn hid => h.apart n hn (sub _ hid)⟩

theorem take_ne_empty (h : ids.Fresh taken) : ids.take.1 ≠ "" := h.nonempty _ (Nat.le_refl _)

theorem take_notMem (h : ids.Fresh taken) : ids.take.1 ∉ taken := h.apart _ (Nat.le_refl _)

/-- An id that was taken is not taken again. -/
theorem take (h : ids.Fresh taken) : ids.take.2.Fresh (ids.take.1 :: taken) := by
  have later : ∀ n, ids.take.2.used ≤ n → ids.used ≤ n := fun n => Nat.le_of_succ_le
  refine ⟨fun n hn => h.nonempty n (later n hn),
    fun i j hi hj => h.injective i j (later i hi) (later j hj), fun n hn hid => ?_⟩
  rcases List.mem_cons.1 hid with same | old
  · have := h.injective n ids.used (later n hn) (Nat.le_refl _) same
    have : ids.used + 1 ≤ n := hn
    omega
  · exact h.apart n (later n hn) old

end Supply.Fresh

namespace Rule

/-- The ids of rules. -/
def ids (rs : List Rule) : List String := rs.map Rule.id

/-- The usable ids that the items of a stored array bring. -/
def storedIds (v : Json) : List String := (v.items?.getD []).filterMap storedId?

theorem mem_ids {rs : List Rule} {id : String} : id ∈ ids rs ↔ ∃ r ∈ rs, r.id = id :=
  List.mem_map

@[simp] theorem ids_cons (r : Rule) (rs : List Rule) : ids (r :: rs) = r.id :: ids rs := rfl

/-- Rules that are saved bring their ids. -/
theorem storedIds_encodeList {rs : List Rule} (h : ∀ r ∈ rs, r.id ≠ "") :
    storedIds (encodeList rs) = ids rs := by
  simp only [storedIds, encodeList, Json.items?, Option.getD_some, ids]
  induction rs with
  | nil => rfl
  | cons r rs ih =>
    have own : storedId? r.encode = some r.id := by
      simp [storedId?, encode, Json.get?, List.lookup_cons, h r List.mem_cons_self]
    rw [List.map_cons, List.filterMap_cons_some own, List.map_cons,
      ih fun q hq => h q (List.mem_cons_of_mem r hq)]

/-- The rule of an item has an id. Either the item brings it and the supply stays, or it is the
next of the supply. -/
theorem ofStored_cases (v : Json) (ids : Supply) :
    (storedId? v = some (ofStored v ids).1.id ∧ (ofStored v ids).2 = ids) ∨
      storedId? v = none ∧ (ofStored v ids).1.id = ids.take.1 ∧
        (ofStored v ids).2 = ids.take.2 := by
  unfold ofStored
  cases h : storedId? v with
  | some id => exact .inl ⟨rfl, rfl⟩
  | none => exact .inr ⟨rfl, rfl, rfl⟩

/-- The rules of items have ids, all different, and of the ids that were taken before they have only
those that the items bring. -/
theorem keyed_ofItems {vs : List Json} {supply : Supply} {taken : List String}
    (fresh : supply.Fresh taken) (brought : ∀ id ∈ vs.filterMap storedId?, id ∈ taken)
    (distinct : (vs.filterMap storedId?).Nodup) :
    (ofItems vs supply).2.Fresh (ids (ofItems vs supply).1 ++ taken) ∧
      (ids (ofItems vs supply).1).Nodup ∧ (∀ id ∈ ids (ofItems vs supply).1, id ≠ "") ∧
      ∀ id ∈ ids (ofItems vs supply).1, id ∈ taken → id ∈ vs.filterMap storedId? := by
  -- The ids taken grow with every id that is minted, so they are general in the induction.
  induction vs generalizing supply taken with
  | nil => exact ⟨fresh, List.nodup_nil, by simp [ofItems, ids], by simp [ofItems, ids]⟩
  | cons v vs ih =>
    rw [ofItems_cons]
    simp only [ids_cons, List.nodup_cons, List.forall_mem_cons]
    rcases ofStored_cases v supply with ⟨own, rest⟩ | ⟨none, minted, rest⟩
    · rw [rest]
      have named := storedId?_ne_empty own
      rw [List.filterMap_cons_some own] at brought distinct ⊢
      obtain ⟨other, distinct⟩ := List.nodup_cons.1 distinct
      obtain ⟨own, brought⟩ := List.forall_mem_cons.1 brought
      obtain ⟨fresh, unique, others, old⟩ := ih fresh brought distinct
      refine ⟨fresh.mono ?_, ⟨fun again => other (old _ again own), unique⟩, ⟨named, others⟩,
        fun _ => List.mem_cons_self, fun id hid ht => List.mem_cons_of_mem _ (old id hid ht)⟩
      intro id hid
      rcases List.mem_cons.1 hid with rfl | hid
      · exact List.mem_append_right _ own
      · exact hid
    · rw [rest, minted]
      rw [List.filterMap_cons_none none] at brought distinct ⊢
      obtain ⟨fresh', unique, others, old⟩ := ih fresh.take
        (fun id hid => List.mem_cons_of_mem _ (brought id hid)) distinct
      have new := fresh.take_notMem
      refine ⟨fresh'.mono ?_, ⟨fun again => ?_, unique⟩, ⟨fresh.take_ne_empty, others⟩,
        fun ht => absurd ht new, fun id hid ht => old id hid (List.mem_cons_of_mem _ ht)⟩
      · intro id hid
        simp only [List.cons_append, List.mem_cons, List.mem_append] at hid ⊢
        grind
      · exact new (brought _ (old _ again List.mem_cons_self))

/-- Rules that are loaded have ids, and different ones if the items bring different ones. -/
theorem keyed_listOfStored {v : Json} {supply : Supply} (fresh : supply.Fresh (storedIds v))
    (distinct : (storedIds v).Nodup) :
    (listOfStored v supply).2.Fresh (ids (listOfStored v supply).1 ++ storedIds v) ∧
      (ids (listOfStored v supply).1).Nodup ∧ ∀ id ∈ ids (listOfStored v supply).1, id ≠ "" := by
  obtain ⟨fresh, unique, named, -⟩ := keyed_ofItems fresh (fun _ h => h) distinct
  exact ⟨fresh, unique, named⟩

end Rule

end Reroute
