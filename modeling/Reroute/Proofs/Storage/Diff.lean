import Reroute.Proofs.Storage.Replay
import Reroute.Storage.Database

/-!
# Comparing a snapshot with the rows

## Main definitions

* `Change.Between` — the changes lead from some texts to others, one change a place.

## Main results

* `Connection.diff_between` — the differences that a poll finds lead from the snapshot to the rows.
* `Change.Between.replay`, `Change.Between.exact` — so they do for one who replays them.
-/

namespace Reroute

/-- The values that texts spell; a text that is not JSON spells none. -/
def View.ofTexts (t : Table Place String) : View := fun p => (t.get? p).bind Json.read?

/-- The changes lead from the texts of `a` to those of `b`, with one change for every place that has
another text. -/
structure Change.Between (cs : List Change) (a b : Table Place String) : Prop where
  nodup : (cs.map Change.place).Nodup
  mem_places : ∀ p, p ∈ cs.map Change.place ↔ a.get? p ≠ b.get? p
  old : ∀ c ∈ cs, c.old = View.ofTexts a c.place
  new : ∀ c ∈ cs, c.new = View.ofTexts b c.place

namespace Change.Between

variable {cs : List Change} {a b : Table Place String}

theorem exact (h : Between cs a b) : (View.ofTexts a).Exact cs := View.exact_of_nodup h.nodup h.old

theorem replay (h : Between cs a b) : (View.ofTexts a).replay cs = View.ofTexts b := by
  funext p
  by_cases hp : p ∈ cs.map Change.place
  · obtain ⟨c, hc, rfl⟩ := List.mem_map.1 hp
    rw [View.replay_of_mem _ h.nodup hc, h.new c hc]
  · have same : a.get? p = b.get? p := Decidable.byContradiction fun e => hp ((h.mem_places p).2 e)
    rw [View.replay_of_notMem _ hp, View.ofTexts, View.ofTexts, same]

/-- The order of the changes does not matter. -/
theorem perm {ds : List Change} (h : Between cs a b) (hp : ds.Perm cs) : Between ds a b where
  nodup := ((hp.map Change.place).nodup_iff).2 h.nodup
  mem_places p := ((hp.map Change.place).mem_iff).trans (h.mem_places p)
  old c hc := h.old c (hp.mem_iff.1 hc)
  new c hc := h.new c (hp.mem_iff.1 hc)

end Change.Between

namespace Connection

variable {a b : Table Place String}

/-- Changes that are made of some entries concern places of these. -/
theorem places_sublist {f : Place × String → Option Change}
    (hf : ∀ e c, f e = some c → c.place = e.1) (t : Table Place String) :
    ((t.filterMap f).map Change.place).Sublist (t.map Prod.fst) := by
  induction t with
  | nil => exact .slnil
  | cons e t ih =>
    rw [List.filterMap_cons]
    cases he : f e with
    | none => exact ih.cons e.1
    | some c =>
      rw [List.map_cons, List.map_cons, hf e c he]
      exact ih.cons_cons e.1

/-! ## New and changed entries -/

theorem mem_changed {c : Change} :
    c ∈ b.filterMap (fun (p, text) => changeOf? a p text) ↔
      ∃ p text, (p, text) ∈ b ∧ a.get? p ≠ some text ∧
        c = ⟨p, (a.get? p).bind Json.read?, Json.read? text⟩ := by
  rw [List.mem_filterMap]
  constructor
  · rintro ⟨⟨p, text⟩, hm, hc⟩
    simp only [changeOf?] at hc
    split at hc
    · cases hc
    · rename_i other
      exact ⟨p, text, hm, other, (Option.some.inj hc).symm⟩
  · rintro ⟨p, text, hm, other, rfl⟩
    exact ⟨(p, text), hm, by simp only [changeOf?, if_neg other]⟩

/-! ## Entries that are gone -/

theorem mem_gone {c : Change} :
    c ∈ a.filterMap (fun (p, text) => if (b.get? p).isSome then none
        else some ⟨p, Json.read? text, none⟩) ↔
      ∃ p text, (p, text) ∈ a ∧ b.get? p = none ∧ c = ⟨p, Json.read? text, none⟩ := by
  rw [List.mem_filterMap]
  constructor
  · rintro ⟨⟨p, text⟩, hm, hc⟩
    simp only at hc
    split at hc
    · cases hc
    · rename_i gone
      exact ⟨p, text, hm, by simpa using gone, (Option.some.inj hc).symm⟩
  · rintro ⟨p, text, hm, gone, rfl⟩
    exact ⟨(p, text), hm, by simp [gone]⟩

/-! ## All differences -/

theorem differences_between (ha : a.Keyed) (hb : b.Keyed) :
    Change.Between (differences a b) a b where
  nodup := by
    unfold differences
    rw [List.map_append, List.nodup_append]
    refine ⟨(places_sublist ?_ b).nodup hb, (places_sublist ?_ a).nodup ha, ?_⟩
    · rintro ⟨p, text⟩ c hc
      simp only [changeOf?] at hc
      split at hc <;> cases hc
      rfl
    · rintro ⟨p, text⟩ c hc
      simp only at hc
      split at hc <;> cases hc
      rfl
    rintro p hp q hq rfl
    obtain ⟨c, hc, rfl⟩ := List.mem_map.1 hp
    obtain ⟨d, hd, hplace⟩ := List.mem_map.1 hq
    obtain ⟨p, text, hm, -, rfl⟩ := mem_changed.1 hc
    obtain ⟨p', text', -, gone, rfl⟩ := mem_gone.1 hd
    obtain rfl : p' = p := hplace
    rw [hb.get?_of_mem hm] at gone
    cases gone
  mem_places p := by
    unfold differences
    rw [List.map_append, List.mem_append, List.mem_map, List.mem_map]
    constructor
    · rintro (⟨c, hc, rfl⟩ | ⟨c, hc, rfl⟩)
      · obtain ⟨p, text, hm, other, rfl⟩ := mem_changed.1 hc
        rwa [hb.get?_of_mem hm]
      · obtain ⟨p, text, hm, gone, rfl⟩ := mem_gone.1 hc
        rw [ha.get?_of_mem hm, gone]
        exact Option.some_ne_none text
    · intro hne
      cases hbp : b.get? p with
      | some text =>
        rw [hbp] at hne
        exact .inl ⟨_, mem_changed.2 ⟨p, text, Table.mem_of_get? hbp, hne, rfl⟩, rfl⟩
      | none =>
        rw [hbp] at hne
        obtain ⟨text, hap⟩ := Option.ne_none_iff_exists'.1 hne
        exact .inr ⟨_, mem_gone.2 ⟨p, text, Table.mem_of_get? hap, hbp, rfl⟩, rfl⟩
  old c hc := by
    unfold differences at hc
    rcases List.mem_append.1 hc with hc | hc
    · obtain ⟨p, text, -, -, rfl⟩ := mem_changed.1 hc
      rfl
    · obtain ⟨p, text, hm, -, rfl⟩ := mem_gone.1 hc
      simp [View.ofTexts, ha.get?_of_mem hm]
  new c hc := by
    unfold differences at hc
    rcases List.mem_append.1 hc with hc | hc
    · obtain ⟨p, text, hm, -, rfl⟩ := mem_changed.1 hc
      simp [View.ofTexts, hb.get?_of_mem hm]
    · obtain ⟨p, text, -, gone, rfl⟩ := mem_gone.1 hc
      simp [View.ofTexts, gone]

/-- A poll that finds texts `b` announces how they differ from the snapshot `a`. -/
theorem diff_between (ha : a.Keyed) (hb : b.Keyed) : Change.Between (diff a b) a b :=
  (differences_between ha hb).perm (List.mergeSort_perm ..)

end Connection

end Reroute
