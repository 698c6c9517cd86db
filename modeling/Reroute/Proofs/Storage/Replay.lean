import Reroute.Storage.Basic

/-!
# Replaying changes

Someone who hears every change can keep a view of all values, without reading any of them.

## Main definitions

* `View` — the value of every place, `View.replay` — the view after some changes.
* `View.Exact` — every change tells the old value that the view had.

## Main results

* `View.replay_of_mem`, `View.replay_of_notMem`, `View.exact_of_nodup` — changes of different places
  can be looked at one by one.
-/

namespace Reroute

/-- The value of every place, if it has one. -/
def View := Place → Option Json

namespace View

/-- Takes over a change. -/
def apply (w : View) (c : Change) : View := fun p => if p = c.place then c.new else w p

/-- Takes over changes one after the other. -/
def replay (w : View) (cs : List Change) : View := cs.foldl apply w

/-- Every change tells the old value that the view had just before. -/
def Exact : View → List Change → Prop
  | _, [] => True
  | w, c :: cs => c.old = w c.place ∧ (w.apply c).Exact cs

theorem replay_append (w : View) (cs ds : List Change) :
    w.replay (cs ++ ds) = (w.replay cs).replay ds := List.foldl_append

theorem exact_append (w : View) (cs ds : List Change) :
    w.Exact (cs ++ ds) ↔ w.Exact cs ∧ (w.replay cs).Exact ds := by
  induction cs generalizing w with
  | nil => simp [Exact, replay]
  | cons c cs ih =>
    simp only [List.cons_append, Exact, ih, and_assoc]
    rfl

/-! ## One place -/

theorem replay_of_notMem (w : View) {cs : List Change} {p : Place}
    (h : p ∉ cs.map Change.place) : w.replay cs p = w p := by
  induction cs generalizing w with
  | nil => rfl
  | cons c cs ih =>
    obtain ⟨hc, hcs⟩ := not_or.1 (mt List.mem_cons.2 h)
    exact (ih (w.apply c) hcs).trans (if_neg hc)

/-- What is replayed of a place that changes concern does not depend on the view before. -/
theorem replay_eq_of_mem (w w' : View) {cs : List Change} {p : Place}
    (h : p ∈ cs.map Change.place) : w.replay cs p = w'.replay cs p := by
  induction cs generalizing w w' with
  | nil => cases h
  | cons c cs ih =>
    by_cases later : p ∈ cs.map Change.place
    · exact ih (w.apply c) (w'.apply c) later
    · have first : p = c.place := (List.mem_cons.1 h).resolve_right later
      calc w.replay (c :: cs) p = w.apply c p := replay_of_notMem (w.apply c) later
        _ = c.new := if_pos first
        _ = w'.apply c p := (if_pos first).symm
        _ = w'.replay (c :: cs) p := (replay_of_notMem (w'.apply c) later).symm

/-! ## Changes of different places -/

theorem replay_of_mem (w : View) {cs : List Change} (hn : (cs.map Change.place).Nodup)
    {c : Change} (h : c ∈ cs) : w.replay cs c.place = c.new := by
  induction cs generalizing w with
  | nil => cases h
  | cons d cs ih =>
    obtain ⟨hd, hcs⟩ := List.nodup_cons.1 hn
    rcases List.mem_cons.1 h with rfl | h
    · exact (replay_of_notMem (w.apply c) hd).trans (if_pos rfl)
    · exact ih (w.apply d) hcs h

theorem exact_of_nodup {w : View} {cs : List Change} (hn : (cs.map Change.place).Nodup)
    (h : ∀ c ∈ cs, c.old = w c.place) : w.Exact cs := by
  induction cs generalizing w with
  | nil => trivial
  | cons c cs ih =>
    obtain ⟨hc, hcs⟩ := List.nodup_cons.1 hn
    refine ⟨h c List.mem_cons_self, ih hcs fun d hd => ?_⟩
    have other : d.place ≠ c.place := fun e => hc (e ▸ List.mem_map_of_mem hd)
    rw [apply, if_neg other]
    exact h d (List.mem_cons_of_mem c hd)

end View

end Reroute
