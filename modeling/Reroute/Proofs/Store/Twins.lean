import Reroute.Proofs.Storage.Mirror
import Reroute.Proofs.Store.Operations

/-!
# Twins at a memory and at a database

Two equal stores, one at a memory and one at a connection that mirrors it, read the same values and
write the same values. So every operation leaves them equal, and gives the same result.

## Main definitions

* `Opened.Twins` — equal stores at a memory and at a connection that mirrors it.
* `Opened.perform` — an operation with its result, `Act.Exact` — it accepts no inexact rate.

## Main results

* `Opened.Twins.openOn` — stores that are opened are twins.
* `Opened.Twins.perform` — twins remain twins, with the same results.
-/

namespace Reroute

/-- The result of an operation, if it has one. -/
inductive Result where
  | nothing
  | call (r : Except Store.Error Reply)
  | saved (r : Except Store.Error Unit)

/-- A rate that the operation accepts is read back from its text. -/
def Act.Exact : Act → Prop
  | .call (.rate raw) => ∀ rate, Rate.ofInput raw = .ok rate → ∀ x ∈ rate, x.Exact
  | _ => True

/-- Performs an operation. -/
def Opened.perform {σ : Type} [Medium σ] (o : Opened σ) : Act → Result × Opened σ
  | .call c => (.call (o.call c).1, (o.call c).2)
  | .persistRules => (.saved o.persistRules.1, o.persistRules.2)
  | .persistSettings => (.saved o.persistSettings.1, o.persistSettings.2)
  | a => (.nothing, o.act a)

/-! ## Links -/

namespace Mirrors

variable {m : Memory} {s : Session}

/-- Both read the same through every link, and its rate can be saved. -/
theorem readOrNull (h : Mirrors m s) (l : Link) (key : String) :
    Opened.readOrNull s l key = Opened.readOrNull m l key ∧
      (Settings.normalize (Opened.readOrNull m l key)).Plain := by
  have nothing : (Settings.normalize .null).Plain := nofun
  have read : Medium.read s ⟨l.area, key⟩ = Medium.read m ⟨l.area, key⟩ := h.get _
  unfold Opened.readOrNull Link.read
  cases hf : l.fault with
  | some f =>
    refine ⟨rfl, ?_⟩
    dsimp only
    cases f.reads <;> exact nothing
  | none =>
    refine ⟨by simp only [read], ?_⟩
    have value : Medium.read m ⟨l.area, key⟩ = .ok (m.get ⟨l.area, key⟩) := rfl
    simp only [value]
    cases hv : m.get ⟨l.area, key⟩ with
    | none => exact nothing
    | some v => exact (h.fit _ v hv).settings

/-- Both write a fit value through every link, or both fail alike. -/
theorem write (h : Mirrors m s) (l : Link) (key : String) {v : Json} (hv : v.Fit) :
    (∃ m' s', l.write m key v = .ok m' ∧ l.write s key v = .ok s' ∧ Mirrors m' s') ∨
      ∃ e, l.write m key v = .error e ∧ l.write s key v = .error e := by
  unfold Link.write
  cases hf : l.fault with
  | none => exact .inl ⟨_, _, rfl, rfl, h.set _ hv⟩
  | some f =>
    cases hw : f.writes with
    | true => exact .inr ⟨_, if_pos hw, if_pos hw⟩
    | false =>
      have works : ¬f.writes = true := ne_true_of_eq_false hw
      exact .inl ⟨m, s, if_neg works, if_neg works, h⟩

end Mirrors

namespace Opened

/-- Equal stores with the same ids to come, at a memory and at a connection that mirrors it. -/
structure Twins (o : Opened Memory) (o' : Opened Session) : Prop where
  store : o'.store = o.store
  ids : o'.ids = o.ids
  media : Mirrors o.medium o'.medium
  rate : o.store.settings.Plain

namespace Twins

variable {o : Opened Memory} {o' : Opened Session}

/-! ## Saving and loading -/

theorem save (h : Twins o o') (key : String) {v : Json} (hv : v.Fit) :
    (o'.save key v).1 = (o.save key v).1 ∧ Twins (o.save key v).2 (o'.save key v).2 := by
  unfold Opened.save
  rw [h.store]
  rcases h.media.write o.store.links.config key hv with ⟨m, s, written, written', media⟩ |
    ⟨e, failed, failed'⟩
  · simp only [written, written', true_and]
    exact ⟨rfl, h.ids, media, h.rate⟩
  · simp only [failed, failed', true_and]
    exact h

theorem persistRules (h : Twins o o') :
    o'.persistRules.1 = o.persistRules.1 ∧ Twins o.persistRules.2 o'.persistRules.2 := by
  unfold Opened.persistRules
  rw [h.store]
  exact h.save _ (Rule.fit_encodeList _)

theorem persistSettings (h : Twins o o') :
    o'.persistSettings.1 = o.persistSettings.1 ∧
      Twins o.persistSettings.2 o'.persistSettings.2 := by
  unfold Opened.persistSettings
  rw [h.store]
  exact h.save _ h.rate.fit_encode

theorem loadRules (h : Twins o o') : Twins o.loadRules o'.loadRules := by
  obtain ⟨read, -⟩ := h.media.readOrNull o.store.links.config Store.rulesKey
  have loaded (rules : List Rule) (ids : Supply) :
      Twins ⟨{ o.store with rules }, o.medium, ids⟩ ⟨{ o.store with rules }, o'.medium, ids⟩ :=
    ⟨rfl, rfl, h.media, h.rate⟩
  unfold Opened.loadRules
  simp only [h.store, h.ids, read]
  split
  · exact (loaded _ _).persistRules.2
  · exact loaded _ _

theorem load (h : Twins o o') (τ : Topic) : Twins (τ.load o) (τ.load o') := by
  cases τ with
  | metrics =>
    obtain ⟨read, -⟩ := h.media.readOrNull o.store.links.metrics Store.metricsKey
    refine ⟨?_, h.ids, h.media, h.rate⟩
    simp only [Topic.load, loadMetrics, h.store, read]
  | settings =>
    obtain ⟨read, rate⟩ := h.media.readOrNull o.store.links.config Store.settingsKey
    refine ⟨?_, h.ids, h.media, rate⟩
    simp only [Topic.load, loadSettings, h.store, read]

/-- Stores that are opened at both are twins. -/
theorem openOn {m : Memory} {s : Session} (h : Mirrors m s) (links : Links) (ids : Supply) :
    Twins (Opened.openOn links m ids) (Opened.openOn links s ids) := by
  have new : Twins ⟨.new links, m, ids⟩ ⟨.new links, s, ids⟩ := ⟨rfl, rfl, h, nofun⟩
  exact (new.loadRules.load .metrics).load .settings

/-! ## Operations -/

theorem call (h : Twins o o') {c : Call} (exact : (Act.call c).Exact) :
    (o'.call c).1 = (o.call c).1 ∧ Twins (o.call c).2 (o'.call c).2 := by
  rw [call_eq, call_eq, h.store, h.ids]
  cases hp : c.plan o.store o.ids with
  | refuse e => exact ⟨rfl, h⟩
  | rules r rules ids =>
    have planned : Twins ({ o with ids }.withRules rules) ({ o' with ids }.withRules rules) :=
      ⟨by simp only [withRules, h.store], rfl, h.media, h.rate⟩
    obtain ⟨result, twins⟩ := planned.persistRules
    simp only [carryOut, answer, result, true_and]
    exact twins
  | rate value =>
    obtain ⟨raw, rfl, accepted⟩ := Call.plan_rate hp
    have plain : Settings.Plain ⟨value⟩ := Rate.plain_of_ofInput accepted (exact value accepted)
    have planned : Twins (o.withSettings ⟨value⟩) (o'.withSettings ⟨value⟩) :=
      ⟨by simp only [withSettings, h.store], h.ids, h.media, plain⟩
    obtain ⟨result, twins⟩ := planned.persistSettings
    simp only [carryOut, answer, result, true_and]
    exact twins

/-- Twins remain twins, and every operation gives both the same result. -/
theorem perform (h : Twins o o') {a : Act} (exact : a.Exact) :
    (o'.perform a).1 = (o.perform a).1 ∧ Twins (o.perform a).2 (o'.perform a).2 := by
  cases a with
  | call c =>
    obtain ⟨result, twins⟩ := h.call exact
    exact ⟨congrArg Result.call result, twins⟩
  | loadRules => exact ⟨rfl, h.loadRules⟩
  | load τ => exact ⟨rfl, h.load τ⟩
  | persistRules =>
    obtain ⟨result, twins⟩ := h.persistRules
    exact ⟨congrArg Result.saved result, twins⟩
  | persistSettings =>
    obtain ⟨result, twins⟩ := h.persistSettings
    exact ⟨congrArg Result.saved result, twins⟩

end Twins

end Opened

end Reroute
