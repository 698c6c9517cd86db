import Reroute.Proofs.Json.RoundTrip
import Reroute.Rule.Stored

/-!
# Stored rules are read back

Rules that have ids are read back from what is stored of them, and from the text of it, whatever
ids are still to come. Items that bring no id get theirs once: what is then stored needs none.

## Main results

* `Rule.listOfStored_encodeList`, `Rule.needsIds_encodeList` — a saved list is read as it was.
* `Rule.read?_print_encodeList` — so is its text.
* `Rule.listOfStored_of_needsIds` — a list that needs no ids does not depend on the supply.
* `Rule.ne_empty_of_mem_listOfStored` — rules that are read have ids.
-/

namespace Reroute

namespace Decimal

theorem Scaled.split_fst_ne_nil (x : Scaled) : x.split.1 ≠ [] := by
  unfold Scaled.split
  dsimp only
  split
  · simp
  · rename_i h
    have := digits_ne_nil x.coefficient
    intro e
    rcases List.take_eq_nil_iff.1 (List.append_eq_nil_iff.1 e).1 with e | e
    · omega
    · exact this e

end Decimal

theorem Json.Number.chars_ne_nil (n : Json.Number) : n.chars ≠ [] := by
  cases n with
  | natural n => exact Decimal.digits_ne_nil _
  | negSucc n h => simp [chars]
  | float s m =>
    have whole := m.shortest.split_fst_ne_nil
    simp only [chars, floatChars, ne_eq, List.append_eq_nil_iff, not_and]
    intro _
    split
    · split <;> simp
    · simp [Decimal.Scaled.withPower]

namespace Rule

/-! ## Stored ids -/

/-- An id that is found in an item is not empty. -/
theorem storedId?_ne_empty {v : Json} {id : String} (h : storedId? v = some id) : id ≠ "" := by
  unfold storedId? at h
  split at h
  · split at h
    · cases h
    · rename_i hs; cases h; exact hs
  · rename_i n _
    cases h
    intro e
    have := congrArg String.toList e
    simp [n.chars_ne_nil] at this
  · cases h

theorem ofItems_cons (v : Json) (vs : List Json) (ids : Supply) :
    ofItems (v :: vs) ids =
      ((ofStored v ids).1 :: (ofItems vs (ofStored v ids).2).1,
        (ofItems vs (ofStored v ids).2).2) := rfl

/-! ## Rules that were saved -/

/-- A stored rule with an id is read back as it was. -/
theorem ofStored_encode {r : Rule} (h : r.id ≠ "") (ids : Supply) :
    ofStored r.encode ids = (r, ids) := by
  simp [ofStored, storedId?, encode, Json.get?, List.lookup_cons, h, withId, textField, Json.bool?,
    Json.string?]

theorem ofItems_encode {rs : List Rule} (h : ∀ r ∈ rs, r.id ≠ "") (ids : Supply) :
    ofItems (rs.map encode) ids = (rs, ids) := by
  induction rs with
  | nil => rfl
  | cons r rs ih =>
    rw [List.map_cons, ofItems_cons, ofStored_encode (h r List.mem_cons_self),
      ih fun s hs => h s (List.mem_cons_of_mem r hs)]

theorem listOfStored_encodeList {rs : List Rule} (h : ∀ r ∈ rs, r.id ≠ "") (ids : Supply) :
    listOfStored (encodeList rs) ids = (rs, ids) := ofItems_encode h ids

theorem needsIds_encodeList {rs : List Rule} (h : ∀ r ∈ rs, r.id ≠ "") :
    needsIds (encodeList rs) = false := by
  simp only [needsIds, encodeList, Json.items?, Option.getD_some, List.any_map, List.any_eq_false]
  intro r hr
  simp [storedId?, encode, Json.get?, List.lookup_cons, h r hr]

/-- A saved list that needs no ids is read as it was. -/
theorem listOfStored_encodeList_of_needsIds {rs : List Rule}
    (h : needsIds (encodeList rs) = false) (ids : Supply) :
    listOfStored (encodeList rs) ids = (rs, ids) := by
  refine listOfStored_encodeList (fun r hr unnamed => ?_) ids
  simp only [needsIds, encodeList, Json.items?, Option.getD_some, List.any_map,
    List.any_eq_false] at h
  have missing : storedId? r.encode = none := by
    simp [storedId?, encode, Json.get?, List.lookup_cons, unnamed]
  exact h r hr (by simp [missing])

theorem legibleItems_encode (rs : List Rule) (depth : Nat) :
    Json.LegibleItems (depth + 1) (rs.map encode) := by
  induction rs with
  | nil => trivial
  | cons r rs ih =>
    have ordered : ["enabled", "id", "source_hostname", "target_url"].Pairwise (· < ·) := by decide
    exact ⟨⟨ordered, trivial, trivial, trivial, trivial, trivial⟩, ih⟩

/-- A list of rules is read back from its text. -/
theorem read?_print_encodeList (rs : List Rule) :
    Json.read? (encodeList rs).print = some (encodeList rs) :=
  Json.read?_print (legibleItems_encode rs _)

/-! ## Any stored items -/

/-- Items with ids of their own take none from the supply. -/
theorem ofItems_of_all {vs : List Json} (h : ∀ v ∈ vs, (storedId? v).isSome) (ids : Supply) :
    ofItems vs ids = (vs.map fun v => withId ((storedId? v).getD "") v, ids) := by
  induction vs with
  | nil => rfl
  | cons v vs ih =>
    obtain ⟨id, hid⟩ := Option.isSome_iff_exists.1 (h v List.mem_cons_self)
    have first : ofStored v ids = (withId id v, ids) := by simp [ofStored, hid]
    rw [ofItems_cons, first, ih fun w hw => h w (List.mem_cons_of_mem v hw)]
    simp [hid]

/-- A value whose items bring their ids is read the same with every supply. -/
theorem listOfStored_of_needsIds {v : Json} (h : needsIds v = false) (ids ids' : Supply) :
    listOfStored v ids' = ((listOfStored v ids).1, ids') := by
  have all : ∀ w ∈ v.items?.getD [], (storedId? w).isSome := by
    intro w hw
    simp only [needsIds, List.any_eq_false] at h
    cases hid : storedId? w with
    | none => exact absurd (by simp [hid]) (h w hw)
    | some id => rfl
  rw [listOfStored, listOfStored, ofItems_of_all all, ofItems_of_all all]

theorem ofItems_supply (vs : List Json) (ids : Supply) : (ofItems vs ids).2.id = ids.id := by
  induction vs generalizing ids with
  | nil => rfl
  | cons v vs ih =>
    have first : (ofStored v ids).2.id = ids.id := by
      unfold ofStored
      split <;> rfl
    rw [ofItems_cons, ih, first]

theorem ne_empty_of_mem_ofItems {vs : List Json} {ids : Supply} (hids : ∀ n, ids.id n ≠ "")
    {r : Rule} (h : r ∈ (ofItems vs ids).1) : r.id ≠ "" := by
  induction vs generalizing ids with
  | nil => cases h
  | cons v vs ih =>
    have first : (ofStored v ids).1.id ≠ "" ∧ (ofStored v ids).2.id = ids.id := by
      unfold ofStored
      split
      · rename_i id hid
        exact ⟨storedId?_ne_empty hid, rfl⟩
      · exact ⟨hids _, rfl⟩
    rw [ofItems_cons] at h
    rcases List.mem_cons.1 h with rfl | h
    · exact first.1
    · exact ih (fun n => first.2 ▸ hids n) h

/-- Rules that are read have ids, as the supply has no empty one. -/
theorem ne_empty_of_mem_listOfStored {v : Json} {ids : Supply} (hids : ∀ n, ids.id n ≠ "")
    {r : Rule} (h : r ∈ (listOfStored v ids).1) : r.id ≠ "" := ne_empty_of_mem_ofItems hids h

end Rule

end Reroute
