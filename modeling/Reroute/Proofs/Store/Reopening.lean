import Mathlib.Control.Monad.Basic
import Reroute.Proofs.Rate
import Reroute.Proofs.Rule.Stored
import Reroute.Proofs.Settings
import Reroute.Proofs.Storage.Faithful
import Reroute.Proofs.Store.Calls

/-!
# Reopening a store

A store that was opened is what an opening would load, and every call keeps it so: what is saved is
read back, the ids that were missing included. So a store can be closed and opened again at any
point of a run.

## Main definitions

* `Opened.Settled` — the store is what would be loaded, and loading would save nothing.
* `Opened.run` — calls and reopenings one after the other.

## Main results

* `Opened.Settled.reopen` — a settled store is opened again as it is.
* `Opened.settled_openOn`, `Opened.Settled.call` — opening and calls lead to settled stores.
* `Opened.run_openOn` — reopenings can be left out of a run.
-/

namespace Reroute

namespace Opened

variable {σ : Type} [Medium σ] {kept : Json → Prop}

/-- Closes the store and opens a new one at the same storage. -/
def reopen (o : Opened σ) : Opened σ := openOn o.store.links o.medium o.ids

/-- The rules are what would be loaded, with nothing to be saved. -/
structure Listed (o : Opened σ) : Prop where
  sound : o.store.links.config.fault = none
  fresh : ∀ n, o.ids.id n ≠ ""
  named : ∀ r ∈ o.store.rules, r.id ≠ ""
  rules : Rule.listOfStored (readOrNull o.medium o.store.links.config Store.rulesKey) o.ids =
    (o.store.rules, o.ids)
  complete : Rule.needsIds (readOrNull o.medium o.store.links.config Store.rulesKey) = false

/-- The store is what would be loaded, with nothing to be saved. -/
structure Settled (o : Opened σ) : Prop extends Listed o where
  metrics : .normalize (readOrNull o.medium o.store.links.metrics Store.metricsKey) =
    o.store.metrics
  settings : .normalize (readOrNull o.medium o.store.links.config Store.settingsKey) =
    o.store.settings

/-- A settled store is opened again as it is. -/
theorem Settled.reopen {o : Opened σ} (h : o.Settled) : o.reopen = o := by
  have rules : (⟨.new o.store.links, o.medium, o.ids⟩ : Opened σ).loadRules =
      ⟨{ Store.new o.store.links with rules := o.store.rules }, o.medium, o.ids⟩ := by
    simp only [loadRules, Store.new, h.rules, h.complete, Bool.false_eq_true, if_false]
  rw [Opened.reopen, openOn, rules]
  simp only [loadMetrics, loadSettings, Store.new, h.metrics, h.settings]

/-! ## Saving -/

/-- What saving does at a working link: other keys stay, and what is kept is read back. -/
theorem save_eq (hm : Medium.Faithful σ kept) {o : Opened σ}
    (sound : o.store.links.config.fault = none) (key : String) (v : Json) :
    ∃ m, o.save key v = (.ok (), { o with medium := m }) ∧
      (kept v → readOrNull m o.store.links.config key = v) ∧
      ∀ (l : Link) (other : String), other ≠ key →
        readOrNull m l other = readOrNull o.medium l other := by
  obtain ⟨m, hw⟩ := hm.write_ok o.medium ⟨o.store.links.config.area, key⟩ v
  refine ⟨m, ?_, fun hv => ?_, fun l other hne => ?_⟩
  · simp only [save, Link.write, sound, hw]
  · simp only [readOrNull, Link.read, sound, hm.read_written hw hv]
  · have place : (⟨l.area, other⟩ : Place) ≠ ⟨o.store.links.config.area, key⟩ :=
      fun e => hne (congrArg Place.key e)
    simp only [readOrNull, Link.read, hm.read_other hw place]

theorem persistRules_eq (hm : Medium.Faithful σ kept) (hk : ∀ rs, kept (Rule.encodeList rs))
    {o : Opened σ} (sound : o.store.links.config.fault = none) (fresh : ∀ n, o.ids.id n ≠ "")
    (named : ∀ r ∈ o.store.rules, r.id ≠ "") :
    ∃ m, o.persistRules = (.ok (), { o with medium := m }) ∧ Listed { o with medium := m } ∧
      ∀ (l : Link) (other : String), other ≠ Store.rulesKey →
        readOrNull m l other = readOrNull o.medium l other := by
  obtain ⟨m, hsave, hread, hother⟩ := save_eq hm sound Store.rulesKey
    (Rule.encodeList o.store.rules)
  have read := hread (hk _)
  refine ⟨m, hsave, ⟨sound, fresh, named, ?_, ?_⟩, hother⟩
  · rw [read, Rule.listOfStored_encodeList named]
  · rw [read, Rule.needsIds_encodeList named]

/-! ## Opening -/

theorem listed_loadRules (hm : Medium.Faithful σ kept) (hk : ∀ rs, kept (Rule.encodeList rs))
    {o : Opened σ} (sound : o.store.links.config.fault = none) (fresh : ∀ n, o.ids.id n ≠ "") :
    Listed o.loadRules := by
  have fresh' : ∀ n, o.loaded.ids.id n ≠ "" := fun n => Rule.ofItems_supply _ o.ids ▸ fresh n
  have named : ∀ r ∈ o.loaded.store.rules, r.id ≠ "" :=
    fun r hr => Rule.ne_empty_of_mem_listOfStored fresh hr
  rw [loadRules_eq]
  split
  · obtain ⟨m, hp, listed, -⟩ := persistRules_eq hm hk (o := o.loaded) sound fresh' named
    rw [hp]
    exact listed
  · rename_i complete
    have complete := (Bool.not_eq_true _).mp complete
    exact ⟨sound, fresh', named, Rule.listOfStored_of_needsIds complete _ _, complete⟩

theorem settled_openOn (hm : Medium.Faithful σ kept) (hk : ∀ rs, kept (Rule.encodeList rs))
    {links : Links} (sound : links.config.fault = none) (m : σ) {ids : Supply}
    (fresh : ∀ n, ids.id n ≠ "") : Settled (openOn links m ids) := by
  have listed := listed_loadRules hm hk (o := ⟨.new links, m, ids⟩) sound fresh
  exact ⟨⟨listed.sound, listed.fresh, listed.named, listed.rules, listed.complete⟩, rfl, rfl⟩

/-! ## Calls -/

/-- A call leaves a store settled, if the rate that it saves is kept. -/
theorem Settled.call (hm : Medium.Faithful σ kept) (hk : ∀ rs, kept (Rule.encodeList rs))
    {o : Opened σ} (h : o.Settled) (c : Call)
    (hr : ∀ raw rate, c = .rate raw → Rate.ofInput raw = .ok rate →
      kept (Settings.encode ⟨rate⟩)) : Settled (o.call c).2 := by
  rw [call_eq]
  cases hp : c.plan o.store o.ids with
  | refuse e => exact h
  | rules r rules ids =>
    obtain ⟨hids, origin⟩ := Call.plan_rules hp
    have named : ∀ q ∈ rules, q.id ≠ "" := by
      intro q hq
      rcases origin q hq with ⟨q', hq', hid⟩ | ⟨n, hid⟩
      · exact hid ▸ h.named q' hq'
      · exact hid ▸ h.fresh n
    have fresh : ∀ n, ids.id n ≠ "" := fun n => hids ▸ h.fresh n
    obtain ⟨m, hsave, listed, other⟩ :=
      persistRules_eq hm hk (o := { o with ids }.withRules rules) h.sound fresh named
    simp only [carryOut, answer, hsave]
    refine ⟨listed, ?_, ?_⟩
    · exact (congrArg _ (other _ Store.metricsKey (by decide))).trans h.metrics
    · exact (congrArg _ (other _ Store.settingsKey (by decide))).trans h.settings
  | rate value =>
    obtain ⟨raw, hc, accepted⟩ := Call.plan_rate hp
    have settings : Settings.Sound ⟨value⟩ := Rate.sound_of_ofInput accepted
    obtain ⟨m, hsave, hread, other⟩ := save_eq hm (o := o.withSettings ⟨value⟩) h.sound
      Store.settingsKey (Settings.encode ⟨value⟩)
    have read := hread (hr raw value hc accepted)
    have rules := other o.store.links.config Store.rulesKey (by decide)
    have persisted : (o.withSettings ⟨value⟩).persistSettings = _ := hsave
    simp only [carryOut, answer, persisted]
    refine ⟨⟨h.sound, h.fresh, h.named, ?_, ?_⟩, ?_, ?_⟩
    · exact (congrArg (Rule.listOfStored · o.ids) rules).trans h.rules
    · exact (congrArg Rule.needsIds rules).trans h.complete
    · exact (congrArg _ (other _ Store.metricsKey (by decide))).trans h.metrics
    · exact (congrArg _ read).trans (Settings.normalize_encode settings)

/-! ## Runs -/

/-- What the user of a store does: a call, or closing the store and opening it again. -/
inductive Step where
  | call (c : Call)
  | reopen

def Step.isCall : Step → Bool
  | .call _ => true
  | .reopen => false

/-- The answers of all calls, and the store after them. -/
def run : List Step → Opened σ → List (Except Store.Error Reply) × Opened σ
  | [], o => ([], o)
  | .call c :: steps, o =>
    let (a, o) := o.call c
    let (as, o) := run steps o
    (a :: as, o)
  | .reopen :: steps, o => run steps o.reopen

theorem run_cons_call (c : Call) (steps : List Step) (o : Opened σ) :
    run (.call c :: steps) o =
      ((o.call c).1 :: (run steps (o.call c).2).1, (run steps (o.call c).2).2) := rfl

/-- Reopening a settled store changes no answer and not the end of a run. -/
theorem Settled.run (hm : Medium.Faithful σ kept) (hk : ∀ rs, kept (Rule.encodeList rs))
    {o : Opened σ} (h : o.Settled) (steps : List Step)
    (hr : ∀ raw rate, .call (.rate raw) ∈ steps → Rate.ofInput raw = .ok rate →
      kept (Settings.encode ⟨rate⟩)) :
    Opened.run steps o = Opened.run (steps.filter Step.isCall) o := by
  induction steps generalizing o with
  | nil => rfl
  | cons step steps ih =>
    have later := fun raw rate hs => hr raw rate (List.mem_cons_of_mem step hs)
    cases step with
    | call c =>
      have next := h.call hm hk c fun raw rate hc => hr raw rate (hc ▸ List.mem_cons_self)
      rw [List.filter_cons_of_pos rfl, run_cons_call, run_cons_call, ih next later]
    | reopen =>
      rw [List.filter_cons_of_neg (by simp [Step.isCall]), ← ih h later]
      exact congrArg (Opened.run steps) h.reopen

/-- Closing a store and opening it again, at any points of a run of calls, changes no answer, and
nothing of the store, its storage and its ids at the end. -/
theorem run_openOn (shared : Bool) {ids : Supply} (fresh : ∀ n, ids.id n ≠ "")
    (steps : List Step) :
    let links := Links.working shared
    (∀ m : Memory,
      run steps (openOn links m ids) = run (steps.filter Step.isCall) (openOn links m ids)) ∧
    ∀ s : Session,
      (∀ raw rate, .call (.rate raw) ∈ steps → Rate.ofInput raw = .ok rate →
        Json.read? (Settings.encode ⟨rate⟩).print = some (Settings.encode ⟨rate⟩)) →
      run steps (openOn links s ids) = run (steps.filter Step.isCall) (openOn links s ids) := by
  intro links
  have sound : links.config.fault = none := by
    cases shared <;> rfl
  constructor
  · intro m
    exact (settled_openOn Memory.faithful (fun _ => trivial) sound m fresh).run Memory.faithful
      (fun _ => trivial) steps fun _ _ _ _ => trivial
  · intro s legible
    exact (settled_openOn Session.faithful Rule.read?_print_encodeList sound s fresh).run
      Session.faithful Rule.read?_print_encodeList steps legible

/-- The first opening mints an id, and the store is reopened after each of two calls. -/
theorem run_openOn_minted :
    let links := Links.working true
    let ids := Supply.from 0
    let steps : List Step :=
      [.call (.add "a.b" "http://c.d/"), .reopen, .call (.rate "20"), .reopen]
    let d := Database.empty.upsert ("sync", Store.rulesKey) (.text "[\x7b\x7d]")
    let s : Session := ⟨d, ⟨[], 0, 0, .empty⟩⟩
    run steps (openOn links Memory.empty ids) =
        run (steps.filter Step.isCall) (openOn links Memory.empty ids) ∧
      run steps (openOn links s ids) = run (steps.filter Step.isCall) (openOn links s ids) := by
  intro links ids steps d s
  obtain ⟨memory, session⟩ := run_openOn true (Supply.from_ne_empty 0) steps
  refine ⟨memory .empty, session s fun raw rate called accepted => ?_⟩
  have typed : raw = "20" := by simpa [steps] using called
  have twenty : Rate.ofInput "20" = .ok (some (Double.ofNat 20)) := by decide +kernel
  have value : some (Double.ofNat 20) = rate := by
    rw [typed, twenty] at accepted
    exact Except.ok.inj accepted
  subst value
  decide +kernel

end Opened

end Reroute
