import Reroute.Proofs.Rate
import Reroute.Storage.Database
import Reroute.Storage.Memory
import Reroute.Proofs.Store.Calls

/-!
# Operations of a store

All that a store can do at its storage, and all that it takes from announced changes, when its areas
work and every write succeeds.

## Main definitions

* `Topic` — metrics or settings, `Topic.part` — the copy that a store has.
* `Act`, `Opened.act` — the operations of a store.
* `Medium.Puts` — what a write of a storage does, if none fails.

## Main results

* `Topic.part_handle` — what a store takes from a change.
* `Opened.openOn_cases` — what opening does.
* `Opened.act_cases` — what an operation can do to a store and its storage.
-/

namespace Reroute

/-- Every write succeeds and has the effect of `put`. -/
def Medium.Puts {σ : Type} [Medium σ] (put : σ → Place → Json → σ) : Prop :=
  ∀ m p v, Medium.write m p v = .ok (put m p v)

theorem Memory.puts : Medium.Puts Memory.set := fun _ _ _ => rfl

theorem Session.puts : Medium.Puts Session.set := fun _ _ _ => rfl

/-- Both areas work. -/
structure Links.Sound (links : Links) : Prop where
  config : links.config.fault = none
  metrics : links.metrics.fault = none

theorem Links.working_sound (shared : Bool) : (working shared).Sound := by
  cases shared <;> exact ⟨rfl, rfl⟩

/-! ## Topics -/

/-- What a store takes from changes. -/
inductive Topic where
  | metrics
  | settings
  deriving DecidableEq

namespace Topic

def Value : Topic → Type
  | .metrics => Metrics
  | .settings => Settings

def normalize : (τ : Topic) → Json → τ.Value
  | .metrics => Metrics.normalize
  | .settings => Settings.normalize

/-- The copy that a store has. -/
def part : (τ : Topic) → Store → τ.Value
  | .metrics => Store.metrics
  | .settings => Store.settings

def link (links : Links) : Topic → Link
  | .metrics => links.metrics
  | .settings => links.config

def key : Topic → String
  | .metrics => Store.metricsKey
  | .settings => Store.settingsKey

/-- Where a store reads a topic. -/
def place (links : Links) (τ : Topic) : Place := ⟨(τ.link links).area, τ.key⟩

/-- The value that a store would load. -/
def stored {σ : Type} [Medium σ] (m : σ) (links : Links) (τ : Topic) : Json :=
  Opened.readOrNull m (τ.link links) τ.key

def load {σ : Type} [Medium σ] (o : Opened σ) : Topic → Opened σ
  | .metrics => o.loadMetrics
  | .settings => o.loadSettings

theorem link_sound {links : Links} (h : links.Sound) (τ : Topic) :
    (τ.link links).fault = none := by
  cases τ with
  | metrics => exact h.metrics
  | settings => exact h.config

theorem place_ne {links : Links} {τ υ : Topic} (h : τ ≠ υ) : τ.place links ≠ υ.place links := by
  intro e
  have key : τ.key = υ.key := congrArg Place.key e
  cases τ <;> cases υ <;> first | exact h rfl | exact absurd key (by decide)

/-- A store takes the new value of a topic from its changes, and nothing from others. -/
theorem part_handle (τ : Topic) (s : Store) (c : Change) :
    (c.place = τ.place s.links → τ.part (s.handle c).2 = τ.normalize (c.new.getD .null)) ∧
      (c.place ≠ τ.place s.links → τ.part (s.handle c).2 = τ.part s) := by
  have metrics : Topic.metrics.place s.links = ⟨s.links.metrics.area, Store.metricsKey⟩ := rfl
  have settings : Topic.settings.place s.links = ⟨s.links.config.area, Store.settingsKey⟩ := rfl
  have differ : Topic.metrics.place s.links ≠ Topic.settings.place s.links := place_ne nofun
  unfold Store.handle
  rw [← metrics, ← settings]
  by_cases hm : c.place = Topic.metrics.place s.links
  · rw [if_pos hm]
    cases τ with
    | metrics => exact ⟨fun _ => rfl, fun h => absurd hm h⟩
    | settings => exact ⟨fun h => absurd (hm.symm.trans h) differ, fun _ => rfl⟩
  · rw [if_neg hm]
    by_cases hs : c.place = Topic.settings.place s.links
    · rw [if_pos hs]
      cases τ with
      | metrics => exact ⟨fun h => absurd h hm, fun _ => rfl⟩
      | settings => exact ⟨fun _ => rfl, fun h => absurd hs h⟩
    · rw [if_neg hs]
      cases τ with
      | metrics => exact ⟨fun h => absurd h hm, fun _ => rfl⟩
      | settings => exact ⟨fun h => absurd h hs, fun _ => rfl⟩

section Loading

variable {σ : Type} [Medium σ] (τ : Topic) (o : Opened σ)

theorem part_load : τ.part (τ.load o).store = τ.normalize (τ.stored o.medium o.store.links) := by
  cases τ <;> rfl

theorem part_load_ne {υ : Topic} (h : υ ≠ τ) : υ.part (τ.load o).store = υ.part o.store := by
  cases τ <;> cases υ <;> first | exact absurd rfl h | rfl

@[simp] theorem load_links : (τ.load o).store.links = o.store.links := by cases τ <;> rfl

@[simp] theorem load_medium : (τ.load o).medium = o.medium := by cases τ <;> rfl

end Loading

end Topic

/-- Settings stay sound, for those taken from a change are. -/
theorem Store.handle_sound {s : Store} (h : s.settings.Sound) (c : Change) :
    (s.handle c).2.settings.Sound := by
  obtain ⟨taken, other⟩ := Topic.settings.part_handle s c
  by_cases hc : c.place = Topic.settings.place s.links
  · have settings : (s.handle c).2.settings = .normalize (c.new.getD .null) := taken hc
    rw [settings]
    exact Settings.normalize_sound _
  · have settings : (s.handle c).2.settings = s.settings := other hc
    rw [settings]
    exact h

/-! ## Stores with the numbers under which they listen -/

namespace Store

theorem entry_unique {stores : List (Store × Nat)} {k : Nat} {r s : Store} {i l : Nat}
    (h : stores[k]? = some (s, i)) (h' : stores[k]? = some (r, l)) : s = r ∧ i = l :=
  Prod.mk.inj (Option.some.inj (h.symm.trans h'))

theorem of_getElem?_set {stores : List (Store × Nat)} {j k : Nat} {x y : Store × Nat}
    (h : (stores.set j x)[k]? = some y) : (k = j ∧ y = x) ∨ (k ≠ j ∧ stores[k]? = some y) := by
  by_cases hk : j = k
  · subst hk
    rw [List.getElem?_set_self'] at h
    obtain ⟨z, -, hz⟩ := Option.map_eq_some_iff.1 h
    exact .inl ⟨rfl, hz.symm⟩
  · rw [List.getElem?_set_ne hk] at h
    exact .inr ⟨Ne.symm hk, h⟩

/-- Replacing a store leaves everyone listening under the same number. -/
theorem listener_of_set {stores : List (Store × Nat)} {j k : Nat} {s s' r : Store} {i l : Nat}
    (hj : stores[j]? = some (s, i)) (h : (stores.set j (s', i))[k]? = some (r, l)) :
    ∃ r', stores[k]? = some (r', l) := by
  rcases of_getElem?_set h with ⟨rfl, hx⟩ | ⟨-, hk⟩
  · cases hx
    exact ⟨s, hj⟩
  · exact ⟨r, hk⟩

theorem of_getElem?_concat {stores : List (Store × Nat)} {k : Nat} {x y : Store × Nat}
    (h : (stores ++ [x])[k]? = some y) :
    (k = stores.length ∧ y = x) ∨ stores[k]? = some y := by
  by_cases hk : k < stores.length
  · rw [List.getElem?_append_left hk] at h
    exact .inr h
  · obtain ⟨hlt, -⟩ := List.getElem?_eq_some_iff.1 h
    rw [List.length_append, List.length_singleton] at hlt
    obtain rfl : k = stores.length := by omega
    rw [List.getElem?_concat_length] at h
    exact .inl ⟨rfl, (Option.some.inj h).symm⟩

end Store

/-! ## Operations -/

/-- An operation of a store. -/
inductive Act where
  | call (c : Call)
  | loadRules
  | load (τ : Topic)
  | persistRules
  | persistSettings

/-- The operation saves the settings. -/
def Act.Saves : Act → Prop
  | .call (.rate raw) => ∃ rate, Rate.ofInput raw = .ok rate
  | .persistSettings => True
  | _ => False

/-- The operation loads or saves a topic. -/
def Act.Touches (τ : Topic) (a : Act) : Prop := a = .load τ ∨ τ = .settings ∧ a.Saves

/-- A call that does not come to saving a rate touches nothing but the rules. -/
theorem Act.not_touches_call {c : Call} (s : Store) (ids : Supply)
    (h : ∀ value, c.plan s ids ≠ .rate value) (τ : Topic) : ¬(Act.call c).Touches τ := by
  rintro (⟨⟨⟩⟩ | ⟨-, saves⟩)
  cases c with
  | rate raw =>
    obtain ⟨value, accepted⟩ := saves
    refine h value ?_
    simp only [Call.plan, accepted]
  | _ => exact saves

namespace Opened

def act {σ : Type} [Medium σ] (o : Opened σ) : Act → Opened σ
  | .call c => (o.call c).2
  | .loadRules => o.loadRules
  | .load τ => τ.load o
  | .persistRules => o.persistRules.2
  | .persistSettings => o.persistSettings.2

section Writing

variable {σ : Type} [Medium σ] {put : σ → Place → Json → σ} {o : Opened σ}

theorem save_put (hput : Medium.Puts put) (sound : o.store.links.config.fault = none)
    (key : String) (v : Json) :
    o.save key v =
      (.ok (), { o with medium := put o.medium ⟨o.store.links.config.area, key⟩ v }) := by
  have written := hput o.medium ⟨o.store.links.config.area, key⟩ v
  simp only [save, Link.write, sound, written]

/-- Where a store saves its rules. -/
def rulesPlace (links : Links) : Place := ⟨links.config.area, Store.rulesKey⟩

theorem persistRules_put (hput : Medium.Puts put) (sound : o.store.links.config.fault = none) :
    o.persistRules = (.ok (), { o with
      medium := put o.medium (rulesPlace o.store.links) (Rule.encodeList o.store.rules) }) :=
  save_put hput sound _ _

theorem persistSettings_put (hput : Medium.Puts put) (sound : o.store.links.config.fault = none) :
    o.persistSettings = (.ok (), { o with
      medium := put o.medium (Topic.settings.place o.store.links) o.store.settings.encode }) :=
  save_put hput sound _ _

/-- Rules are loaded, and they are saved if some were given ids. -/
theorem loadRules_cases (hput : Medium.Puts put) (sound : o.store.links.config.fault = none) :
    ∃ rules ids, o.loadRules = ⟨{ o.store with rules }, o.medium, ids⟩ ∨
      o.loadRules = ⟨{ o.store with rules },
        put o.medium (rulesPlace o.store.links) (Rule.encodeList rules), ids⟩ := by
  refine ⟨o.loaded.store.rules, o.loaded.ids, ?_⟩
  rw [loadRules_eq]
  split
  · exact .inr (congrArg Prod.snd (persistRules_put (o := o.loaded) hput sound))
  · exact .inl rfl

/-- A store that was opened has the values that are stored. Opening may have saved the rules. -/
theorem openOn_cases (hput : Medium.Puts put) {links : Links} (sound : links.config.fault = none)
    (m : σ) (ids : Supply) :
    let o := openOn links m ids
    (o.medium = m ∨ ∃ rules, o.medium = put m (rulesPlace links) (Rule.encodeList rules)) ∧
      o.store.links = links ∧
      ∀ τ : Topic, τ.part o.store = τ.normalize (τ.stored o.medium links) := by
  intro o
  have opened : o = (⟨.new links, m, ids⟩ : Opened σ).loadRules.loadMetrics.loadSettings := rfl
  obtain ⟨rules, ids', h | h⟩ := loadRules_cases (o := ⟨.new links, m, ids⟩) hput sound <;>
    rw [opened, h]
  · refine ⟨.inl rfl, rfl, fun τ => ?_⟩
    cases τ <;> rfl
  · refine ⟨.inr ⟨rules, rfl⟩, rfl, fun τ => ?_⟩
    cases τ <;> rfl

/-- An operation changes the rules, and may save them; or it loads a topic; or it saves settings. -/
theorem act_cases (hput : Medium.Puts put) (sound : o.store.links.config.fault = none) (a : Act) :
    ((∀ τ, ¬a.Touches τ) ∧ ∃ rules ids, o.act a = ⟨{ o.store with rules }, o.medium, ids⟩ ∨
      o.act a = ⟨{ o.store with rules },
        put o.medium (rulesPlace o.store.links) (Rule.encodeList rules), ids⟩) ∨
    (∃ τ, a = .load τ) ∨
    a.Saves ∧ ∃ settings, o.act a = ⟨{ o.store with settings },
      put o.medium (Topic.settings.place o.store.links) settings.encode, o.ids⟩ ∧
      (o.store.settings.Sound → settings.Sound) := by
  cases a with
  | call c =>
    have made : o.act (.call c) = (o.carryOut (c.plan o.store o.ids)).2 :=
      congrArg Prod.snd (o.call_eq c)
    cases hp : c.plan o.store o.ids with
    | refuse e =>
      refine .inl ⟨Act.not_touches_call o.store o.ids fun value h => ?_, o.store.rules, o.ids,
        .inl ?_⟩
      · rw [hp] at h
        cases h
      · rw [made, hp]
        rfl
    | rules r rules ids =>
      refine .inl ⟨Act.not_touches_call o.store o.ids fun value h => ?_, rules, ids, .inr ?_⟩
      · rw [hp] at h
        cases h
      · rw [made, hp]
        exact congrArg Prod.snd (persistRules_put (o := { o with ids }.withRules rules) hput sound)
    | rate value =>
      obtain ⟨raw, rfl, accepted⟩ := Call.plan_rate hp
      refine .inr (.inr ⟨⟨value, accepted⟩, ⟨value⟩, ?_, fun _ => Rate.sound_of_ofInput accepted⟩)
      rw [made, hp]
      exact congrArg Prod.snd (persistSettings_put (o := o.withSettings ⟨value⟩) hput sound)
  | loadRules =>
    obtain ⟨rules, ids, h⟩ := loadRules_cases hput sound
    exact .inl ⟨by simp [Act.Touches, Act.Saves], rules, ids, h⟩
  | load τ => exact .inr (.inl ⟨τ, rfl⟩)
  | persistRules =>
    refine .inl ⟨by simp [Act.Touches, Act.Saves], o.store.rules, o.ids, .inr ?_⟩
    exact congrArg Prod.snd (persistRules_put hput sound)
  | persistSettings =>
    refine .inr (.inr ⟨trivial, o.store.settings, ?_, id⟩)
    exact congrArg Prod.snd (persistSettings_put hput sound)

/-- A topic that is neither loaded nor saved stays as it is. -/
theorem part_act (hput : Medium.Puts put) (sound : o.store.links.config.fault = none) {a : Act}
    {τ : Topic} (h : ¬a.Touches τ) : τ.part (o.act a).store = τ.part o.store := by
  rcases act_cases hput sound a with
    ⟨-, rules, ids, ha | ha⟩ | ⟨υ, rfl⟩ | ⟨saves, settings, ha, -⟩
  · rw [ha]
    cases τ <;> rfl
  · rw [ha]
    cases τ <;> rfl
  · exact υ.part_load_ne o fun same => h (.inl (congrArg Act.load same.symm))
  · rw [ha]
    cases τ with
    | metrics => rfl
    | settings => exact absurd (.inr ⟨rfl, saves⟩) h

/-- Settings that are saved are written where the store reads them. -/
theorem act_of_saves (hput : Medium.Puts put) (sound : o.store.links.config.fault = none) {a : Act}
    (h : a.Saves) :
    (o.act a).medium =
        put o.medium (Topic.settings.place o.store.links) (o.act a).store.settings.encode ∧
      (o.store.settings.Sound → (o.act a).store.settings.Sound) := by
  rcases act_cases hput sound a with ⟨untouched, -⟩ | ⟨υ, rfl⟩ | ⟨-, settings, ha, kept⟩
  · exact absurd (.inr ⟨rfl, h⟩) (untouched .settings)
  · exact h.elim
  · rw [ha]
    exact ⟨rfl, kept⟩

end Writing

end Opened

end Reroute
