import Reroute.Proofs.Run
import Reroute.Proofs.Storage.Session
import Reroute.Proofs.Store.Group
import Reroute.Proofs.Store.Outcome
import Reroute.Proofs.Store.Substrates

/-!
# What operations of a store touch

Every operation of a store names beforehand the only key that it may write, and the copies that it
may change. All else stays as it is: other entries of the storage, also those in areas that no store
knows, and other copies. What is written is announced at most once.

## Main definitions

* `Ledger` — a storage with its entries, and what a write leaves of them.
* `Confined` — at most one entry was written and announced.
* `Use`, `Opened.use` — the operations of a store, and taking announced changes.
* `Use.key?`, `Use.Lists`, `Use.Renews` — what an operation may write and change.
* `Store.Handled` — a change renews the one copy that it concerns, or none.
* `Opened.Footprint` — an operation touches nothing else.

## Main results

* `Opened.footprint` — every operation keeps to its footprint.
* `Opened.footprint_after` — so does every run of operations, in a memory and in a database.
-/

namespace Reroute

/-! ## Entries -/

/-- A storage with its entries. A write that succeeds leaves all but one of them as they are, and
announces at most one change, which is of that one. -/
class Ledger (σ : Type) [Medium σ] [Substrate σ] where
  Row : Type
  Entry : Type
  row : Place → Row
  entry? : σ → Row → Option Entry
  row_injective : ∀ {p q : Place}, row p = row q → p = q
  entry?_write : ∀ {m m' : σ} {p : Place} {v : Json}, Medium.write m p v = .ok m' →
    ∀ r, r ≠ row p → entry? m' r = entry? m r
  announced_write : ∀ {m m' : σ} {p : Place} {v : Json}, Medium.write m p v = .ok m' →
    ∃ cs, Substrate.feed m' = (Substrate.feed m).publishAll cs ∧ cs.length ≤ 1 ∧
      ∀ c ∈ cs, c.place = p ∧ c.new = some v

/-- The entries of a memory are values by their places. -/
instance : Ledger Memory where
  Row := Place
  Entry := Json
  row := id
  entry? := Memory.get
  row_injective := id
  entry?_write := by
    rintro m _ p v ⟨⟩ r other
    rw [Memory.get_set]
    exact if_neg other
  announced_write := by
    rintro m _ p v ⟨⟩
    refine ⟨m.announced p v, Memory.feed_set m p v, ?_⟩
    unfold Memory.announced
    split <;> simp

/-- The entries of a database are its rows, whatever area they name and whatever they hold. -/
instance : Ledger Session where
  Row := String × String
  Entry := Cell
  row := Database.rowOf
  entry? s := s.database.rows.get?
  row_injective := Database.rowOf_injective
  entry?_write := by
    rintro s _ p v ⟨⟩ r other
    rw [Session.set_eq]
    exact (Table.get?_put ..).trans (if_neg other)
  announced_write := by
    rintro s _ p v ⟨⟩
    refine ⟨s.announced (.set p v), Session.step_feed s (.set p v), ?_⟩
    simp only [Session.announced]
    split <;> simp

section Confined

variable {σ : Type} [Medium σ] [Substrate σ] [Ledger σ]

/-- At most the entry of one place was written, and at most one change of it was announced. -/
structure Confined (p : Place) (m m' : σ) : Prop where
  entries : ∀ r : Ledger.Row σ, r ≠ Ledger.row p → Ledger.entry? m' r = Ledger.entry? m r
  announced : ∃ cs, Substrate.feed m' = (Substrate.feed m).publishAll cs ∧ cs.length ≤ 1 ∧
    ∀ c ∈ cs, c.place = p

theorem Confined.refl (p : Place) (m : σ) : Confined p m m :=
  ⟨fun _ _ => rfl, [], rfl, Nat.zero_le 1, nofun⟩

/-- Whatever link a value is written through, and whether this succeeds or fails, it concerns one
place. -/
theorem Link.confined_write {l : Link} {m m' : σ} {key : String} {v : Json}
    (written : l.write m key v = .ok m') : Confined ⟨l.area, key⟩ m m' := by
  unfold Link.write at written
  cases hf : l.fault with
  | none =>
    simp only [hf] at written
    obtain ⟨cs, feed, length, places⟩ := Ledger.announced_write written
    exact ⟨Ledger.entry?_write written, cs, feed, length, fun c hc => (places c hc).1⟩
  | some f =>
    -- With a fault, a write that succeeds has no effect.
    simp only [hf] at written
    split at written <;> cases written
    exact .refl _ m

end Confined

/-! ## Taking a change -/

/-- How a store reports that it renewed a topic. -/
def Topic.reconciled : Topic → Store.Reconciled
  | .metrics => .metrics
  | .settings => .settings

/-- A change that concerns no topic of a store does nothing. Any other renews the one copy that it
concerns, and this is reported. -/
def Store.Handled (s : Store) (c : Change) : Prop :=
  (∀ τ : Topic, c.place ≠ τ.place s.links) ∧ s.handle c = (none, s) ∨
    ∃ τ : Topic, c.place = τ.place s.links ∧ (s.handle c).1 = some τ.reconciled ∧
      τ.part (s.handle c).2 = τ.normalize (c.new.getD .null) ∧
      ∀ υ, υ ≠ τ → υ.part (s.handle c).2 = υ.part s

theorem Store.handled (s : Store) (c : Change) : s.Handled c := by
  have renewed (τ : Topic) (here : c.place = τ.place s.links) :
      τ.part (s.handle c).2 = τ.normalize (c.new.getD .null) ∧
        ∀ υ, υ ≠ τ → υ.part (s.handle c).2 = υ.part s :=
    ⟨(τ.part_handle s c).1 here, fun υ other => (υ.part_handle s c).2 fun there =>
      Topic.place_ne other (there.symm.trans here)⟩
  have metrics : Topic.metrics.place s.links = ⟨s.links.metrics.area, metricsKey⟩ := rfl
  have settings : Topic.settings.place s.links = ⟨s.links.config.area, settingsKey⟩ := rfl
  by_cases hm : c.place = Topic.metrics.place s.links
  · exact .inr ⟨.metrics, hm, by rw [handle, ← metrics, if_pos hm]; rfl, renewed .metrics hm⟩
  · by_cases hs : c.place = Topic.settings.place s.links
    · refine .inr ⟨.settings, hs, ?_, renewed .settings hs⟩
      rw [handle, ← metrics, ← settings, if_neg hm, if_pos hs]
      rfl
    · refine .inl ⟨fun τ => by cases τ <;> assumption, ?_⟩
      rw [handle, ← metrics, ← settings, if_neg hm, if_neg hs]

/-! ## Operations and what they may touch -/

/-- An operation of a store, or a change that it takes. -/
inductive Use where
  | act (a : Act)
  | handle (c : Change)

namespace Use

/-- The key of the configuration area that may be written. -/
def key? : Use → Option String
  | .act (.call c) => some c.key
  | .act .loadRules | .act .persistRules => some Store.rulesKey
  | .act .persistSettings => some Store.settingsKey
  | .act (.load _) | .handle _ => none

/-- The place that may be written. -/
def place? (links : Links) (u : Use) : Option Place :=
  u.key?.map fun key => ⟨links.config.area, key⟩

/-- The list of rules may be changed. -/
def Lists : Use → Prop
  | .act (.call (.rate _)) => False
  | .act (.call _) | .act .loadRules => True
  | _ => False

/-- The copy of a topic may be changed. -/
def Renews (links : Links) (τ : Topic) : Use → Prop
  | .act (.call (.rate _)) => τ = .settings
  | .act (.load υ) => τ = υ
  | .handle c => c.place = τ.place links
  | _ => False

/-- Rules and settings are all that is ever written. -/
theorem place?_cases {links : Links} {u : Use} {p : Place} (h : u.place? links = some p) :
    p = Opened.rulesPlace links ∨ p = Topic.settings.place links := by
  obtain ⟨key, hk, rfl⟩ := Option.map_eq_some_iff.1 h
  have keys : key = Store.rulesKey ∨ key = Store.settingsKey := by
    match u, hk with
    | .act (.call (.add _ _)), rfl => exact .inl rfl
    | .act (.call (.update _ _)), rfl => exact .inl rfl
    | .act (.call (.enable _ _)), rfl => exact .inl rfl
    | .act (.call (.delete _)), rfl => exact .inl rfl
    | .act (.call (.rate _)), rfl => exact .inr rfl
    | .act .loadRules, rfl => exact .inl rfl
    | .act .persistRules, rfl => exact .inl rfl
    | .act .persistSettings, rfl => exact .inr rfl
  rcases keys with rfl | rfl
  · exact .inl rfl
  · exact .inr rfl

end Use

namespace Opened

section Storage

variable {σ : Type} [Medium σ]

def use (o : Opened σ) : Use → Opened σ
  | .act a => o.act a
  | .handle c => { o with store := (o.store.handle c).2 }

/-- The store after some operations. -/
def afterUses (o : Opened σ) (us : List Use) : Opened σ := us.foldl use o

variable [Substrate σ] [Ledger σ]

/-- An operation writes at most the entry of the place that it may write, and changes only copies
that it may change. -/
structure Footprint (o : Opened σ) (u : Use) : Prop where
  idle : u.place? o.store.links = none → (o.use u).medium = o.medium
  writes : ∀ p, u.place? o.store.links = some p → Confined p o.medium (o.use u).medium
  links : (o.use u).store.links = o.store.links
  rules : ¬u.Lists → (o.use u).store.rules = o.store.rules
  parts : ∀ τ : Topic, ¬u.Renews o.store.links τ → τ.part (o.use u).store = τ.part o.store

/-! ## Every operation keeps to its footprint -/

/-- Saving leaves the store and writes one place. -/
theorem save_confined (o : Opened σ) (key : String) (v : Json) :
    ∃ m, (o.save key v).2 = { o with medium := m } ∧
      Confined ⟨o.store.links.config.area, key⟩ o.medium m := by
  rcases o.save_cases key v with ⟨m, written, saved⟩ | ⟨e, -, failed⟩
  · exact ⟨m, by rw [saved], Link.confined_write written⟩
  · exact ⟨o.medium, by rw [failed], .refl _ _⟩

/-- An operation that changes the rules as it may, and then writes one place. -/
theorem footprint_of_rules {o : Opened σ} {u : Use} {rules : List Rule} {m : σ} {ids : Supply}
    {p : Place} (place : u.place? o.store.links = some p)
    (used : o.use u = ⟨{ o.store with rules }, m, ids⟩) (confined : Confined p o.medium m)
    (kept : ¬u.Lists → rules = o.store.rules) : Footprint o u where
  idle none := nomatch place.symm.trans none
  writes q hq := by
    obtain rfl := Option.some.inj (place.symm.trans hq)
    rw [used]
    exact confined
  links := by rw [used]
  rules silent := by rw [used, kept silent]
  parts τ _ := by
    rw [used]
    cases τ <;> rfl

/-- The same for settings. -/
theorem footprint_of_settings {o : Opened σ} {u : Use} {settings : Settings} {m : σ} {ids : Supply}
    {p : Place} (place : u.place? o.store.links = some p)
    (used : o.use u = ⟨{ o.store with settings }, m, ids⟩) (confined : Confined p o.medium m)
    (kept : ¬u.Renews o.store.links .settings → settings = o.store.settings) :
    Footprint o u where
  idle none := nomatch place.symm.trans none
  writes q hq := by
    obtain rfl := Option.some.inj (place.symm.trans hq)
    rw [used]
    exact confined
  links := by rw [used]
  rules _ := by rw [used]
  parts τ silent := by
    rw [used]
    cases τ with
    | metrics => rfl
    | settings => exact kept silent

theorem footprint_call (o : Opened σ) (c : Call) : Footprint o (.act (.call c)) := by
  have made : o.use (.act (.call c)) = (o.call c).2 := rfl
  have place : (Use.act (.call c)).place? o.store.links = some (c.place o.store.links) := rfl
  rcases o.call_cases c with ⟨e, -, called⟩ | ⟨a, replied, saved⟩
  · exact footprint_of_rules place (made.trans (congrArg Prod.snd called)) (.refl _ _) fun _ => rfl
  · obtain ⟨m, called, confined⟩ : ∃ m, (o.call c).2 =
        ⟨(c.plan o.store o.ids).applied o.store, m, (c.plan o.store o.ids).supply o.ids⟩ ∧
          Confined (c.place o.store.links) o.medium m := by
      rcases saved with ⟨m, written, called⟩ | ⟨e, -, called⟩
      · exact ⟨m, by rw [called], Link.confined_write written⟩
      · exact ⟨o.medium, by rw [called], .refl _ _⟩
    rw [called] at made
    cases hp : c.plan o.store o.ids with
    | refuse e =>
      rw [hp] at replied
      cases replied
    | rules r rules ids =>
      rw [hp] at made
      refine footprint_of_rules place made confined fun silent => ?_
      have key := (Call.key_of_plan_rules hp).1
      cases c with
      | rate raw =>
        have same : Store.settingsKey = Store.rulesKey := key
        exact absurd same (by decide)
      | _ => exact absurd trivial silent
    | rate value =>
      rw [hp] at made
      obtain ⟨raw, rfl, -⟩ := Call.plan_rate hp
      exact footprint_of_settings place made confined fun silent => absurd rfl silent

theorem footprint_loadRules (o : Opened σ) : Footprint o (.act .loadRules) := by
  have place : (Use.act .loadRules).place? o.store.links = some (rulesPlace o.store.links) := rfl
  have made : o.use (.act .loadRules) = o.loadRules := rfl
  have may (m : σ) (used : o.use (.act .loadRules) = { o.loaded with medium := m })
      (confined : Confined (rulesPlace o.store.links) o.medium m) :
      Footprint o (.act .loadRules) :=
    footprint_of_rules place used confined fun silent => absurd trivial silent
  rw [loadRules_eq] at made
  split at made
  · obtain ⟨m, saved, confined⟩ := o.loaded.save_confined Store.rulesKey
      (Rule.encodeList o.loaded.store.rules)
    exact may m (made.trans saved) confined
  · exact may o.medium made (.refl _ _)

/-- Every operation keeps to its footprint. -/
theorem footprint (o : Opened σ) (u : Use) : Footprint o u := by
  match u with
  | .act (.call c) => exact o.footprint_call c
  | .act .loadRules => exact o.footprint_loadRules
  | .act (.load υ) =>
    have loaded : o.use (.act (.load υ)) = υ.load o := rfl
    refine ⟨fun _ => υ.load_medium o, nofun, υ.load_links o, fun _ => ?_, fun τ other => ?_⟩
    · rw [loaded]
      cases υ <;> rfl
    · exact υ.part_load_ne o other
  | .act .persistRules =>
    obtain ⟨m, saved, confined⟩ := o.save_confined Store.rulesKey (Rule.encodeList o.store.rules)
    exact footprint_of_rules rfl saved confined fun _ => rfl
  | .act .persistSettings =>
    obtain ⟨m, saved, confined⟩ := o.save_confined Store.settingsKey o.store.settings.encode
    exact footprint_of_settings rfl saved confined fun _ => rfl
  | .handle c =>
    exact ⟨fun _ => rfl, nofun, o.store.handle_links c, fun _ => o.store.handle_rules c,
      fun τ other => (τ.part_handle o.store c).2 other⟩

/-! ## Runs -/

/-- A run leaves all entries but those of rules and settings. -/
theorem entry?_afterUses (o : Opened σ) (us : List Use) {r : Ledger.Row σ}
    (rules : r ≠ Ledger.row (rulesPlace o.store.links))
    (settings : r ≠ Ledger.row (Topic.settings.place o.store.links)) :
    Ledger.entry? (o.afterUses us).medium r = Ledger.entry? o.medium r := by
  induction us generalizing o with
  | nil => rfl
  | cons u us ih =>
    have print := o.footprint u
    have now : Ledger.entry? (o.use u).medium r = Ledger.entry? o.medium r := by
      cases hp : u.place? o.store.links with
      | none => rw [print.idle hp]
      | some p =>
        refine (print.writes p hp).entries r ?_
        rcases Use.place?_cases hp with rfl | rfl
        · exact rules
        · exact settings
    rw [← print.links] at rules settings
    exact (ih (o.use u) rules settings).trans now

end Storage

/-- The entries of rules, settings and metrics are three, also where all areas are one. -/
theorem places_nodup (links : Links) :
    [rulesPlace links, Topic.settings.place links, Topic.metrics.place links].Nodup := by
  have keys : [Store.rulesKey, Store.settingsKey, Store.metricsKey].Nodup := by decide
  exact List.Pairwise.of_map Place.key
    (fun _ _ differ same => differ (congrArg Place.key same)) keys

/-- Every operation of every run keeps to its footprint. At the end of the run all entries but those
of rules and settings are as they were at its start, and the metrics are one of these. -/
theorem footprint_after :
    (∀ links : Links,
      [rulesPlace links, Topic.settings.place links, Topic.metrics.place links].Nodup) ∧
    (∀ (s : Store) (c : Change), s.Handled c) ∧
    (∀ (o : Opened Memory) (us : List Use),
      Run.Throughout use Footprint o us ∧
        ∀ q, q ≠ rulesPlace o.store.links → q ≠ Topic.settings.place o.store.links →
          (o.afterUses us).medium.get q = o.medium.get q) ∧
    (∀ (o : Opened Session) (us : List Use),
      Run.Throughout use Footprint o us ∧
        ∀ row, row ≠ Database.rowOf (rulesPlace o.store.links) →
          row ≠ Database.rowOf (Topic.settings.place o.store.links) →
          (o.afterUses us).medium.database.rows.get? row = o.medium.database.rows.get? row) :=
  ⟨places_nodup, Store.handled,
    fun o us => ⟨Run.throughout_of_forall footprint o us, fun _ => o.entry?_afterUses us⟩,
    fun o us => ⟨Run.throughout_of_forall footprint o us, fun _ => o.entry?_afterUses us⟩⟩

/-- A rate and a rule are saved beside a row of an area that no store knows. -/
theorem footprint_after_foreign :
    let row : String × String := ("attic", "a")
    let s : Session := ⟨Database.empty.upsert row (.blob [0]), ⟨[], 1, 0, .empty⟩⟩
    let o : Opened Session := ⟨.new (.working false), s, .from 0⟩
    let us : List Use := [.act (.call (.rate "5")),
      .act (.call (.add "old.example" "https://new.example/"))]
    (o.afterUses us).medium.database.rows.get? row = some (.blob [0]) := by
  intro row s o us
  have known : row ≠ Database.rowOf (rulesPlace o.store.links) ∧
      row ≠ Database.rowOf (Topic.settings.place o.store.links) := by decide
  exact (footprint_after.2.2.2 o us).2 row known.1 known.2

end Opened

end Reroute
