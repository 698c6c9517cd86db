import Reroute.Proofs.Command.Watch
import Reroute.Proofs.Storage.Foreign

/-!
# The order within a poll

A poll comes upon the entries of its snapshot and upon the rows in any order. What it announces
concerns different places, whatever this order is. Changes of different places renew different
copies of a store, or none. So it cannot be told from a store in which order they were announced.

## Main definitions

* `Store.renewed` — what a store renews as it takes some changes.

## Main results

* `Store.handle_comm`, `Store.heeded_perm` — changes of different places are taken in any order.
* `Connection.differences_perm` — the order in which entries are compared orders the changes only.
* `Session.poll_unordered` — the order of the changes that a poll announces does not matter.
-/

namespace Reroute

/-- The order of a table with different keys does not matter. -/
theorem Table.Keyed.get?_of_perm {t u : Table Place String} (ht : t.Keyed) (h : u.Perm t)
    (p : Place) : u.get? p = t.get? p := by
  have hu : u.Keyed := (h.map Prod.fst).nodup_iff.2 ht
  refine Option.ext fun text => ⟨fun entry => ?_, fun entry => ?_⟩
  · exact ht.get?_of_mem (h.mem_iff.1 (mem_of_get? entry))
  · exact hu.get?_of_mem (h.mem_iff.2 (mem_of_get? entry))

/-- In whatever order entries are compared, the same changes are found. -/
theorem Connection.differences_perm {a a' b b' : Table Place String} (ha : a.Keyed) (hb : b.Keyed)
    (pa : a'.Perm a) (pb : b'.Perm b) : (differences a' b').Perm (diff a b) := by
  have between := differences_between ((pa.map Prod.fst).nodup_iff.2 ha)
    ((pb.map Prod.fst).nodup_iff.2 hb)
  have same := between.congr (fun p => (ha.get?_of_perm pa p).symm) fun p =>
    (hb.get?_of_perm pb p).symm
  exact same.perm_of_between (diff_between ha hb)

namespace Store

variable {cs ds : List Change}

/-- What a store renews as it takes changes one after the other, with the places of these. -/
def renewed (s : Store) : List Change → List (Place × Reconciled)
  | [] => []
  | c :: cs => ((s.handle c).1.map fun x => (c.place, x)).toList ++ (s.handle c).2.renewed cs

/-- What a change renews depends on the links of the store only. -/
theorem handle_fst_congr {s t : Store} (links : s.links = t.links) (c : Change) :
    (s.handle c).1 = (t.handle c).1 := by
  grind [handle]

theorem renewed_eq (s : Store) (cs : List Change) :
    s.renewed cs = cs.filterMap fun c => (s.handle c).1.map fun x => (c.place, x) := by
  induction cs generalizing s with
  | nil => rfl
  | cons c cs ih =>
    have later : (fun d => ((s.handle c).2.handle d).1.map fun x => (d.place, x)) =
        fun d => (s.handle d).1.map fun x => (d.place, x) := by
      funext d
      rw [handle_fst_congr (handle_links s c) d]
    rw [renewed, ih, later, List.filterMap_cons]
    cases (s.handle c).1 <;> rfl

/-- Changes of different places can be taken in either order. -/
theorem handle_comm (s : Store) {c d : Change} (other : c.place ≠ d.place) :
    ((s.handle c).2.handle d).2 = ((s.handle d).2.handle c).2 := by
  grind [handle]

/-- Changes of different places can be taken in any order. -/
theorem heeded_perm (s : Store) (distinct : (cs.map Change.place).Nodup) (h : ds.Perm cs) :
    s.heeded ds = s.heeded cs := by
  refine h.foldl_eq' (fun c hc d hd s => ?_) s
  by_cases same : c = d
  · rw [same]
  · refine handle_comm s fun place => same ?_
    exact List.inj_on_of_nodup_map distinct (h.mem_iff.1 hc) (h.mem_iff.1 hd) place

theorem renewed_perm (s : Store) (h : ds.Perm cs) : (s.renewed ds).Perm (s.renewed cs) := by
  rw [renewed_eq, renewed_eq]
  exact h.filterMap _

end Store

namespace Session

/-- A poll announces at most one change of every place. -/
theorem nodup_places_poll {s : Session} (keyed : s.connection.snapshot.Keyed) :
    ((s.announced .poll).map Change.place).Nodup := by
  simp only [announced]
  split
  · exact List.nodup_nil
  · split
    · rename_i entries found
      exact (Connection.diff_between keyed (Database.keyed_entries found)).nodup
    · exact List.nodup_nil

/-- A poll that reads the rows announces what it finds, in whatever order it compares them. -/
theorem differences_perm_announced {s : Session} (keyed : s.connection.snapshot.Keyed)
    {a b entries : Table Place String} (looks : s.connection.noted ≠ s.current)
    (read : s.database.entries? = .ok entries) (pa : a.Perm s.connection.snapshot)
    (pb : b.Perm entries) : (Connection.differences a b).Perm (s.announced .poll) := by
  have found : s.announced .poll = Connection.diff s.connection.snapshot entries := by
    simp only [announced, if_neg looks, read]
  rw [found]
  exact Connection.differences_perm keyed (Database.keyed_entries read) pa pb

/-- A poll announces changes of different places, the same ones in whatever order it compares what
it knows with the rows. Every store that takes them in another order is the same in the end, and has
renewed the same. So is a store that takes what waits for a subscriber, whichever order the changes
were published in. -/
theorem poll_unordered (s : Session) (keyed : s.connection.snapshot.Keyed) :
    let cs := s.announced .poll
    s.poll.2.connection.feed = s.connection.feed.publishAll cs ∧
    (cs.map Change.place).Nodup ∧
    (∀ a b entries, s.connection.noted ≠ s.current → s.database.entries? = .ok entries →
      a.Perm s.connection.snapshot → b.Perm entries → (Connection.differences a b).Perm cs) ∧
    ∀ ds : List Change, ds.Perm cs →
      (∀ t : Store, t.heeded ds = t.heeded cs ∧ (t.renewed ds).Perm (t.renewed cs)) ∧
      (s.connection.feed.Sound → ∀ i q, s.connection.feed.queue? i = some q →
        s.poll.2.connection.feed.queue? i = some (q ++ cs) ∧
        (s.connection.feed.publishAll ds).queue? i = some (q ++ ds) ∧
        ∀ t : Store, t.heeded (q ++ ds) = t.heeded (q ++ cs) ∧
          (t.renewed (q ++ ds)).Perm (t.renewed (q ++ cs))) := by
  intro cs
  have published : s.poll.2.connection.feed = s.connection.feed.publishAll cs := s.step_feed .poll
  have distinct : (cs.map Change.place).Nodup := nodup_places_poll keyed
  refine ⟨published, distinct, fun a b entries => differences_perm_announced keyed, fun ds h => ?_⟩
  refine ⟨fun t => ⟨t.heeded_perm distinct h, t.renewed_perm h⟩, fun sound i q waits => ?_⟩
  refine ⟨?_, ?_, ?_⟩
  · rw [published, sound.queue?_publishAll, waits]
    rfl
  · rw [sound.queue?_publishAll, waits]
    rfl
  · intro t
    refine ⟨?_, t.renewed_perm (h.append_left q)⟩
    rw [Store.heeded_append, Store.heeded_append]
    exact (t.heeded q).heeded_perm distinct h

/-- Metrics and settings of a store without a shared area appear, and another row is gone. The store
is the same whether it takes these changes as they are found or in the opposite order. -/
theorem poll_unordered_reversed :
    let metrics := "\x7b\"total_redirects\":2\x7d"
    let settings := "\x7b\"hourly_rate\":5\x7d"
    let known : Table Place String := [(⟨.sync, "theme"⟩, "1")]
    let entries : Table Place String :=
      [(⟨.device, Store.metricsKey⟩, metrics), (⟨.device, Store.settingsKey⟩, settings)]
    let opened : Session := ⟨⟨[(("sync", "theme"), .text "1")], 1, by decide⟩, ⟨known, 1, 0, .empty⟩⟩
    let s := opened.after [.upsert ("local", Store.metricsKey) (.text metrics),
      .delete ("sync", "theme"), .upsert ("local", Store.settingsKey) (.text settings)]
    let ds := Connection.differences known entries
    let t := Store.new (.working false)
    s.connection.snapshot.Keyed ∧ ds.Perm (s.announced .poll) ∧ ds.length = 3 ∧
      t.heeded ds ≠ t ∧ t.heeded ds.reverse = t.heeded ds ∧
      (t.renewed ds.reverse).Perm (t.renewed ds) := by
  intro metrics settings known entries opened s ds t
  have keyed : s.connection.snapshot.Keyed := by decide +kernel
  obtain ⟨-, -, found, unordered⟩ := poll_unordered s keyed
  have perm : ds.Perm (s.announced .poll) :=
    found known entries entries (by decide +kernel) (by decide +kernel) (.refl _) (.refl _)
  obtain ⟨same, renewed⟩ := (unordered ds perm).1 t
  obtain ⟨same', renewed'⟩ := (unordered ds.reverse (ds.reverse_perm.trans perm)).1 t
  exact ⟨keyed, perm, by decide +kernel, by decide +kernel, same'.trans same.symm,
    renewed'.trans renewed.symm⟩

end Session

end Reroute
