import Mathlib.Control.Monad.Basic
import Reroute.Proofs.Store.Twins

/-!
# Memory and database are interchangeable

Whoever uses a new memory, or a new database that nobody else uses, cannot tell which one it is:
results, stores and announced changes are equal after every request.

## Main definitions

* `Substrate` — a storage that announces changes, and looks for those of others.
* `Desk`, `Desk.step` — stores on such a storage, and what can be requested.
* `Desk.trace` — what is seen of the requests.
* `Desk.Alike` — equal stores, at a memory and at a connection that mirrors it.

## Main results

* `Desk.Alike.step` — every request has the same response at both.
* `Desk.trace_eq` — whole traces are equal, and polls find nothing.
-/

namespace Reroute

/-- A storage that announces changes, and looks for changes of others. -/
class Substrate (σ : Type) where
  feed : σ → Feed
  withFeed : σ → Feed → σ
  poll : σ → Except StorageError Nat × σ

/-- A memory has no others. -/
instance : Substrate Memory where
  feed := Memory.feed
  withFeed m feed := { m with feed }
  poll m := (.ok 0, m)

instance : Substrate Session where
  feed s := s.connection.feed
  withFeed := Session.withFeed
  poll := Session.poll

/-- Stores on one storage, and the ids to come. -/
structure Desk (σ : Type) where
  medium : σ
  ids : Supply
  stores : List Store

namespace Desk

/-- What can be requested: a store is created, or opened, with the shared area or without it; a
store operates; a value is read or set; someone begins to listen, leaves, or takes the next change;
a store takes the next change of a listener, or any other change; a poll. -/
inductive Request where
  | create (shared : Bool)
  | join (shared : Bool)
  | act (k : Nat) (a : Act)
  | get (p : Place)
  | set (p : Place) (v : Json)
  | subscribe
  | leave (i : Nat)
  | next (i : Nat)
  | deliver (k i : Nat)
  | handle (k : Nat) (c : Change)
  | poll

/-- What comes of a request. -/
inductive Response where
  | result (r : Result)
  | value (r : Except StorageError (Option Json))
  | written (r : Except StorageError Unit)
  | listener (i : Nat)
  | next (c : Feed.Next)
  | handled (c : Change) (r : Option Store.Reconciled)
  | polled (r : Except StorageError Nat)
  | noStore

/-- A value that is not too deep, has no negative zero, and whose floats are read back from their
texts, a rate also as the float that it is taken for. -/
def Faithful (v : Json) : Prop :=
  v.Plain Json.maxDepth ∧ ∀ x ∈ (Settings.normalize v).hourlyRate, x.Exact

/-- What the request sets or hands over is read back from its text. -/
def Request.Faithful : Request → Prop
  | .act _ a => a.Exact
  | .set _ v => Desk.Faithful v
  | .handle _ c => ∀ v ∈ c.new, Desk.Faithful v
  | _ => True

section Steps

variable {σ : Type} [Medium σ] [Substrate σ]

/-- A storage without stores. -/
def start (m : σ) (ids : Supply) : Desk σ := ⟨m, ids, []⟩

/-- Replaces the feed of the storage. -/
def withFeed (t : Desk σ) (feed : Feed) : Desk σ :=
  { t with medium := Substrate.withFeed t.medium feed }

/-- A store takes a change. -/
def handled (t : Desk σ) (k : Nat) (s : Store) (c : Change) : Response × Desk σ :=
  (.handled c (s.handle c).1, { t with stores := t.stores.set k (s.handle c).2 })

def step (t : Desk σ) : Request → Response × Desk σ
  | .create shared => (.result .nothing, { t with stores := t.stores ++ [.new (.working shared)] })
  | .join shared =>
    let o := Opened.openOn (.working shared) t.medium t.ids
    (.result .nothing, ⟨o.medium, o.ids, t.stores ++ [o.store]⟩)
  | .act k a =>
    match t.stores[k]? with
    | some s =>
      let (r, o) := (⟨s, t.medium, t.ids⟩ : Opened σ).perform a
      (.result r, ⟨o.medium, o.ids, t.stores.set k o.store⟩)
    | none => (.noStore, t)
  | .get p => (.value (Medium.read t.medium p), t)
  | .set p v =>
    match Medium.write t.medium p v with
    | .ok m => (.written (.ok ()), { t with medium := m })
    | .error e => (.written (.error e), t)
  | .subscribe =>
    let (i, feed) := (Substrate.feed t.medium).subscribe
    (.listener i, t.withFeed feed)
  | .leave i => (.result .nothing, t.withFeed ((Substrate.feed t.medium).leave i))
  | .next i =>
    let (c, feed) := (Substrate.feed t.medium).next i
    (.next c, t.withFeed feed)
  | .deliver k i =>
    match t.stores[k]?, (Substrate.feed t.medium).next i with
    | some s, (.change c, feed) => (t.withFeed feed).handled k s c
    | some _, (c, _) => (.next c, t)
    | none, _ => (.noStore, t)
  | .handle k c =>
    match t.stores[k]? with
    | some s => t.handled k s c
    | none => (.noStore, t)
  | .poll =>
    let (r, m) := Substrate.poll t.medium
    (.polled r, { t with medium := m })

/-- What is seen of some requests: of each its response, and then all stores, and all changes that
wait for listeners. -/
def trace (t : Desk σ) : List Request → List (Response × List Store × Feed)
  | [] => []
  | r :: rs =>
    ((t.step r).1, (t.step r).2.stores, Substrate.feed (t.step r).2.medium) ::
      (t.step r).2.trace rs

end Steps

/-- Equal stores with the same ids to come, at a memory and at a connection that mirrors it. -/
structure Alike (t : Desk Memory) (u : Desk Session) : Prop where
  stores : u.stores = t.stores
  ids : u.ids = t.ids
  media : Mirrors t.medium u.medium
  rates : ∀ s ∈ t.stores, s.settings.Plain

namespace Alike

variable {t : Desk Memory} {u : Desk Session}

theorem feed (h : Alike t u) : Substrate.feed u.medium = Substrate.feed t.medium := h.media.feed

/-- One store is replaced by its twin. -/
theorem replace (h : Alike t u) {o : Opened Memory} {o' : Opened Session} (twins : o.Twins o')
    (k : Nat) : Alike ⟨o.medium, o.ids, t.stores.set k o.store⟩
      ⟨o'.medium, o'.ids, u.stores.set k o'.store⟩ := by
  refine ⟨by rw [h.stores, twins.store], twins.ids, twins.media, fun s hs => ?_⟩
  rcases List.mem_or_eq_of_mem_set hs with hs | rfl
  · exact h.rates s hs
  · exact twins.rate

/-- One more store is added to both. -/
theorem add (h : Alike t u) {o : Opened Memory} {o' : Opened Session} (twins : o.Twins o') :
    Alike ⟨o.medium, o.ids, t.stores ++ [o.store]⟩ ⟨o'.medium, o'.ids, u.stores ++ [o'.store]⟩ := by
  refine ⟨by rw [h.stores, twins.store], twins.ids, twins.media, fun s hs => ?_⟩
  rcases List.mem_append.1 hs with hs | hs
  · exact h.rates s hs
  · exact List.mem_singleton.1 hs ▸ twins.rate

/-- Listeners may come and go at both, and take their changes. -/
theorem withFeed (h : Alike t u) {feed : Feed} (sound : feed.Sound)
    (waiting : feed.Holds fun c => ∀ v ∈ c.new, v.Fit) :
    Alike (t.withFeed feed) (u.withFeed feed) :=
  ⟨h.stores, h.ids, h.media.withFeed sound waiting, h.rates⟩

/-- A store takes a change at both. -/
theorem handled (h : Alike t u) (k : Nat) {s : Store} (rate : s.settings.Plain) {c : Change}
    (fit : ∀ v ∈ c.new, v.Fit) :
    (u.handled k s c).1 = (t.handled k s c).1 ∧
      Alike (t.handled k s c).2 (u.handled k s c).2 := by
  have taken : (s.handle c).2.settings.Plain := by
    obtain ⟨own, other⟩ := Topic.settings.part_handle s c
    by_cases hc : c.place = Topic.settings.place s.links
    · have settings : (s.handle c).2.settings = .normalize (c.new.getD .null) := own hc
      rw [settings]
      cases hn : c.new with
      | none => exact nofun
      | some v => exact (fit v hn).settings
    · have settings : (s.handle c).2.settings = s.settings := other hc
      rwa [settings]
  have twins : Opened.Twins ⟨(s.handle c).2, t.medium, t.ids⟩ ⟨(s.handle c).2, u.medium, u.ids⟩ :=
    ⟨rfl, h.ids, h.media, taken⟩
  exact ⟨rfl, h.replace twins k⟩

theorem fit_of_faithful {v : Json} (h : Desk.Faithful v) : v.Fit := h.1.fit h.2

/-- Every request has the same response at both, and leaves them alike. -/
theorem step (h : Alike t u) {r : Request} (faithful : r.Faithful) :
    (u.step r).1 = (t.step r).1 ∧ Alike (t.step r).2 (u.step r).2 := by
  have feed := h.feed
  cases r with
  | create shared =>
    have new : Opened.Twins ⟨.new (.working shared), t.medium, t.ids⟩
        ⟨.new (.working shared), u.medium, u.ids⟩ := ⟨rfl, h.ids, h.media, nofun⟩
    exact ⟨rfl, h.add new⟩
  | join shared =>
    have twins := Opened.Twins.openOn h.media (.working shared) t.ids
    rw [← h.ids] at twins
    exact ⟨rfl, h.add (h.ids ▸ twins)⟩
  | act k a =>
    simp only [Desk.step, h.stores]
    cases hk : t.stores[k]? with
    | none => exact ⟨rfl, h⟩
    | some s =>
      have rate := h.rates s (List.mem_of_getElem? hk)
      have twins : Opened.Twins ⟨s, t.medium, t.ids⟩ ⟨s, u.medium, u.ids⟩ :=
        ⟨rfl, h.ids, h.media, rate⟩
      obtain ⟨result, twins⟩ := twins.perform faithful
      have after := h.replace twins k
      rw [h.stores] at after
      exact ⟨congrArg Response.result result, after⟩
  | get p => exact ⟨congrArg Response.value (h.media.get p), h⟩
  | set p v =>
    exact ⟨rfl, h.stores, h.ids, h.media.set p (fit_of_faithful faithful), h.rates⟩
  | subscribe =>
    simp only [Desk.step, feed, true_and]
    exact h.withFeed h.media.sound.subscribe h.media.waiting.subscribe
  | leave i =>
    simp only [Desk.step, feed, true_and]
    exact h.withFeed (h.media.sound.leave i) (h.media.waiting.leave i)
  | next i =>
    simp only [Desk.step, feed, true_and]
    exact h.withFeed (h.media.sound.next i) (h.media.waiting.next i)
  | deliver k i =>
    simp only [Desk.step, feed, h.stores]
    cases hk : t.stores[k]? with
    | none => exact ⟨rfl, h⟩
    | some s =>
      have rate := h.rates s (List.mem_of_getElem? hk)
      obtain ⟨c, rest, hn⟩ : ∃ c rest, (Substrate.feed t.medium).next i = (c, rest) := ⟨_, _, rfl⟩
      have sound := h.media.sound.next i
      have waiting := h.media.waiting.next i
      have fit (d : Change) := h.media.waiting.of_next (i := i) (c := d)
      have same : t.medium.feed.next i = (c, rest) := hn
      rw [same] at sound waiting fit
      simp only [hn]
      cases c with
      | change c => exact (h.withFeed sound waiting).handled k rate (fit c rfl)
      | pending => exact ⟨rfl, h⟩
      | closed => exact ⟨rfl, h⟩
      | left => exact ⟨rfl, h⟩
  | handle k c =>
    simp only [Desk.step, h.stores]
    cases hk : t.stores[k]? with
    | none => exact ⟨rfl, h⟩
    | some s =>
      have rate := h.rates s (List.mem_of_getElem? hk)
      exact h.handled k rate fun v hv => fit_of_faithful (faithful v hv)
  | poll =>
    have polled : Substrate.poll u.medium = (.ok 0, u.medium) := h.media.poll
    simp only [Desk.step, polled]
    exact ⟨rfl, h⟩

/-- Both are seen alike. -/
theorem trace (h : Alike t u) {rs : List Request} (faithful : ∀ r ∈ rs, r.Faithful) :
    u.trace rs = t.trace rs := by
  induction rs generalizing t u with
  | nil => rfl
  | cons r rs ih =>
    obtain ⟨first, rest⟩ := List.forall_mem_cons.1 faithful
    obtain ⟨response, after⟩ := h.step first
    rw [Desk.trace, Desk.trace, response, after.stores, after.feed, ih after rest]

end Alike

/-- Every poll of a memory finds nothing. -/
theorem trace_poll (t : Desk Memory) {rs : List Request} {i : Nat}
    (h : rs[i]? = some Request.poll) :
    ∃ seen, (t.trace rs)[i]? = some (Response.polled (.ok 0), seen) := by
  induction rs generalizing t i with
  | nil => cases h
  | cons r rs ih =>
    cases i with
    | zero =>
      obtain rfl : r = .poll := by simpa using h
      exact ⟨_, rfl⟩
    | succ i => exact ih (t.step r).2 (by simpa using h)

/-- Whatever is requested of a new memory, or of a connection to an empty database that nobody else
uses, all responses, all stores and all changes that wait for listeners are equal, and every poll
finds nothing. -/
theorem trace_eq {s : Session} (opened : Session.open? .empty = .ok s) (ids : Supply)
    {rs : List Request} (faithful : ∀ r ∈ rs, r.Faithful) :
    (start s ids).trace rs = (start Memory.empty ids).trace rs ∧
      ∀ i : Nat, rs[i]? = some Request.poll →
        ∃ seen, ((start s ids).trace rs)[i]? = some (Response.polled (.ok 0), seen) := by
  have alike : Alike (start Memory.empty ids) (start s ids) :=
    ⟨rfl, rfl, mirrors_open? opened, fun _ hs => absurd hs List.not_mem_nil⟩
  have same := alike.trace faithful
  refine ⟨same, fun i poll => ?_⟩
  rw [same]
  exact trace_poll _ poll

/-- A rate is typed, another one is set directly as a whole number, and a store takes both changes
and saves the second rate as a float. -/
theorem trace_eq_taken :
    let rate : Json := .object [("hourly_rate", .number (.natural 7))]
    let rs : List Request := [.subscribe, .join true, .create false, .act 0 (.call (.rate "0")),
      .set ⟨.sync, Store.settingsKey⟩ rate, .poll, .deliver 1 0, .deliver 0 0,
      .act 0 .persistSettings, .get ⟨.sync, Store.settingsKey⟩]
    let s : Session := ⟨.empty, ⟨[], 0, 0, .empty⟩⟩
    Session.open? .empty = .ok s ∧
      (start s (.from 0)).trace rs = (start Memory.empty (.from 0)).trace rs ∧
      ∃ seen, ((start s (.from 0)).trace rs)[5]? = some (Response.polled (.ok 0), seen) := by
  intro rate rs s
  have opened : Session.open? .empty = .ok s := rfl
  have typed : (Act.call (.rate "0")).Exact := by
    intro value accepted x hx
    have zero : Rate.ofInput "0" = .ok (some .zero) := by decide +kernel
    obtain rfl : some Double.zero = value := Except.ok.inj (zero.symm.trans accepted)
    obtain rfl : Double.zero = x := Option.some.inj hx
    exact Double.exact_finite.2 (by decide +kernel)
  have direct : Desk.Faithful rate := by
    refine ⟨⟨List.pairwise_singleton _ _, trivial, trivial⟩, fun x hx => ?_⟩
    have seven : (Settings.normalize rate).hourlyRate = some (Double.ofNat 7) := by decide +kernel
    obtain rfl : Double.ofNat 7 = x := Option.some.inj (seven.symm.trans hx)
    rw [Double.ofNat_of_le (by decide)]
    exact Double.exact_finite.2 (by decide +kernel)
  have faithful : ∀ r ∈ rs, r.Faithful := by
    simpa [rs, Request.Faithful, Act.Exact] using ⟨typed, direct⟩
  obtain ⟨same, polls⟩ := trace_eq opened (.from 0) faithful
  exact ⟨opened, same, polls 5 rfl⟩

end Desk

end Reroute
