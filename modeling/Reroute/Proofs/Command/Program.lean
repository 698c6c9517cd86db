import Mathlib.Logic.Function.Iterate
import Reroute.Command.Program
import Reroute.Proofs.Command.Watch
import Reroute.Proofs.Store.RuleList

/-!
# What a run of the program leaves behind

A run opens the database and a store on it, and then carries out a request. Opening may save the
list of rules once, so that items without a usable id get one. After that, an action answers at once
or makes one call of the store. So a request that only reads, and one that fails wherever that may
be, leaves all files as they were right after opening.

## Main definitions

* `Command.Errand`, `Command.Action.errand` — what comes of an action in a store.
* `Command.Action.ReadsOnly`, `Command.Request.ReadsOnly` — requests that save nothing.
* `Command.Occasion` — what a run finds, and which of its steps fail for reasons of their own.
* `Command.Occasion.opened`, `Command.Occasion.run` — the files after opening, and after the run.
* `Files.cell?` — what a row of a database among the files holds.

## Main results

* `Command.perform_eq` — an action runs its errand.
* `Command.medium_perform` — what fails or only reads leaves the storage.
* `Command.Occasion.run_eq` — a run without hindrances is a run of the program.
* `Command.Occasion.keeps_rows` — the rows after opening and after the run.
-/

namespace Reroute

/-! ## Storages that refuse nothing -/

namespace Opened

variable {σ : Type} [Medium σ]

/-- The same store at its storage with a guard that refuses nothing. -/
def withGuard (o : Opened σ) : Opened (Guarded σ) := ⟨o.store, ⟨o.medium, none⟩, o.ids⟩

omit [Medium σ] in
@[simp] theorem guarded_withGuard (o : Opened σ) : o.withGuard.guarded none = o.withGuard := rfl

theorem write_guarded (l : Link) (m : σ) (key : String) (v : Json) :
    l.write (⟨m, none⟩ : Guarded σ) key v = (l.write m key v).map fun m => ⟨m, none⟩ := by
  obtain ⟨area, _ | f⟩ := l
  · rfl
  · simp only [Link.write]
    split <;> rfl

theorem save_withGuard (o : Opened σ) (key : String) (v : Json) :
    o.withGuard.save key v = Prod.map id withGuard (o.save key v) := by
  have write := write_guarded o.store.links.config o.medium key v
  rcases o.save_cases key v with ⟨m, written, saved⟩ | ⟨e, failed, saved⟩
  · rw [written] at write
    rw [saved, save]
    simp only [withGuard, write, Except.map]
    rfl
  · rw [failed] at write
    rw [saved, save]
    simp only [withGuard, write, Except.map]
    rfl

theorem loadRules_withGuard (o : Opened σ) : o.withGuard.loadRules = o.loadRules.withGuard := by
  have read : readOrNull o.withGuard.medium o.withGuard.store.links.config Store.rulesKey =
      readOrNull o.medium o.store.links.config Store.rulesKey := rfl
  have loaded : o.withGuard.loaded = o.loaded.withGuard := rfl
  rw [loadRules_eq, loadRules_eq, read, loaded]
  split
  · exact congrArg Prod.snd (save_withGuard o.loaded Store.rulesKey _)
  · rfl

theorem openOn_withGuard (links : Links) (m : σ) (ids : Supply) :
    openOn links (⟨m, none⟩ : Guarded σ) ids = (openOn links m ids).withGuard :=
  congrArg (fun o : Opened (Guarded σ) => o.loadMetrics.loadSettings)
    (loadRules_withGuard (⟨.new links, m, ids⟩ : Opened σ))

theorem call_withGuard (o : Opened σ) (c : Call) :
    o.withGuard.call c = Prod.map id withGuard (o.call c) := by
  rw [call_eq, call_eq]
  have plan : c.plan o.withGuard.store o.withGuard.ids = c.plan o.store o.ids := rfl
  rw [plan]
  cases c.plan o.store o.ids with
  | refuse e => rfl
  | rules r rules ids =>
    exact congrArg (answer (.rule r)) (save_withGuard ({ o with ids }.withRules rules) _ _)
  | rate value =>
    exact congrArg (answer (.rate value)) (save_withGuard (o.withSettings ⟨value⟩) _ _)

/-! ## Opening -/

/-- Opening writes nothing, or it saves the rules since an item has no usable id. -/
theorem openOn_medium (links : Links) (m : σ) (ids : Supply) :
    (openOn links m ids).medium = m ∨
      Rule.needsIds (readOrNull m links.config Store.rulesKey) = true ∧
        ∃ v, links.config.write m Store.rulesKey v = .ok (openOn links m ids).medium := by
  let o : Opened σ := ⟨.new links, m, ids⟩
  have opened : (openOn links m ids).medium = o.loadRules.medium := rfl
  rw [opened, loadRules_eq]
  split
  · rename_i needs
    rcases o.loaded.save_cases Store.rulesKey (Rule.encodeList o.loaded.store.rules) with
      ⟨m', written, saved⟩ | ⟨e, -, failed⟩
    · rw [persistRules, saved]
      exact .inr ⟨needs, _, written⟩
    · rw [persistRules, failed]
      exact .inl rfl
  · exact .inl rfl

/-- A call that is not answered has written nothing. -/
theorem medium_call {o : Opened σ} {c : Call} {e : Store.Error} (h : (o.call c).1 = .error e) :
    (o.call c).2.medium = o.medium := by
  rcases o.call_cases c with ⟨e, -, called⟩ | ⟨a, -, ⟨m, -, called⟩ | ⟨e, -, called⟩⟩ <;>
    rw [called] at h ⊢
  cases h

/-- A list with an item that has no usable id is the text of its row. -/
theorem text_of_needsIds {l : Link} (sound : l.fault = none) {s : Session}
    {refusal : Option StorageError} {key : String}
    (h : Rule.needsIds (readOrNull (⟨s, refusal⟩ : Guarded Session) l key) = true) :
    ∃ text v, s.database.rows.get? (Database.rowOf ⟨l.area, key⟩) = some (.text text) ∧
      Json.read? text = some v ∧ Rule.needsIds v = true := by
  have read : l.read (⟨s, refusal⟩ : Guarded Session) key = s.get ⟨l.area, key⟩ := by
    simp only [Link.read, sound]
    rfl
  unfold readOrNull at h
  rw [read] at h
  unfold Session.get at h
  cases hc : s.database.rows.get? (Database.rowOf ⟨l.area, key⟩) with
  | none =>
    rw [hc] at h
    cases h
  | some c =>
    rw [hc] at h
    cases c with
    | blob bytes => cases h
    | text text =>
      cases hv : Json.read? text with
      | none =>
        simp only [hv] at h
        cases h
      | some v =>
        simp only [hv] at h
        exact ⟨text, v, rfl, hv, h⟩

/-- Opening a store on a database changes the row of the rules, if it has an item without a usable
id, and no other. -/
theorem rows_openOn {links : Links} (sound : links.config.fault = none) {s : Session}
    {refusal : Option StorageError} {ids : Supply} {row : String × String}
    (h : (openOn links (⟨s, refusal⟩ : Guarded Session) ids).medium.medium.database.rows.get? row ≠
      s.database.rows.get? row) :
    row = Database.rowOf (rulesPlace links) ∧
      ∃ text v, s.database.rows.get? row = some (.text text) ∧ Json.read? text = some v ∧
        Rule.needsIds v = true := by
  rcases openOn_medium links (⟨s, refusal⟩ : Guarded Session) ids with same | ⟨needs, v, written⟩
  · rw [same] at h
    exact absurd rfl h
  · simp only [Link.write, sound] at written
    cases refusal with
    | some e => cases written
    | none =>
      rw [← Except.ok.inj written] at h
      have here : row = Database.rowOf (rulesPlace links) :=
        Classical.byContradiction fun other => h ((Table.get?_put ..).trans (if_neg other))
      exact ⟨here, here ▸ text_of_needsIds sound needs⟩

end Opened

namespace Command

/-! ## Actions -/

/-- Actions that only read. -/
def Action.ReadsOnly : Action → Prop
  | .listRules | .stats | .rate none false => True
  | _ => False

/-- What comes of an action: it answers at once, or a call of the store is made. -/
inductive Errand where
  | tell (r : Outcome)
  | call (c : Call)

/-- What comes of the rule that a text means. -/
def Errand.on (s : Store) (text : String) (k : String → Errand) : Errand :=
  match resolveId s.rules text with
  | .error f => .tell (.failing f)
  | .ok id => k id

/-- What comes of an action in a store. -/
def Action.errand (s : Store) : Action → Errand
  | .listRules => .tell (Command.listRules s)
  | .addRule source target => .call (.add source target)
  | .editRule text edit =>
    if edit.source = none ∧ edit.target = none then .tell (.failing .nothingToChange)
    else .on s text fun id => .call (.update id edit)
  | .enableRule text enabled => .on s text fun id => .call (.enable id enabled)
  | .deleteRule text sure => .on s text fun id =>
    if sure then .call (.delete id) else .tell (.failing .notATerminal)
  | .rate _ true => .call (.rate "")
  | .rate (some input) false => .call (.rate input)
  | .rate none false => .tell (.printing [rateLine s.settings.hourlyRate])
  | .stats => .tell (Command.stats s)

/-- What is said when the call of an action succeeded, and what the store is then. -/
def Action.report : Action → Store → Reply → List Line
  | .addRule _ _, _, .rule r => changedLine "added" r
  | .editRule _ _, _, .rule r => changedLine "updated" r
  | .enableRule _ _, s, .rule r =>
    .out ("Rule " ++ shortId r.id ++ " " ++ (if r.enabled then "enabled" else "disabled") ++ ".")
      :: match issueOf? s r.id with
        | some e => [.warning ("warning: this rule does not validate (" ++ e.message ++ ")")]
        | none => []
  | .deleteRule _ _, _, .rule r => [.out ("Rule " ++ shortId r.id ++ " deleted.")]
  | .rate _ _, _, .rate x => [rateSetLine x]
  | _, _, _ => []

section Perform

variable {σ : Type} [Medium σ]

/-- Runs an errand. -/
def Errand.run (o : Opened σ) (report : Store → Reply → List Line) :
    Errand → Outcome × Opened σ
  | .tell r => (r, o)
  | .call c => (.ofResult (o.call c).1 (report (o.call c).2.store), (o.call c).2)

theorem ofResult_map {α β : Type} (r : Except Store.Error α) (f : α → β) (lines : β → List Line) :
    Outcome.ofResult (r.map f) lines = Outcome.ofResult r fun a => lines (f a) := by
  cases r <;> rfl

theorem run_on (o : Opened σ) (text : String) (k : String → Errand)
    (report : Store → Reply → List Line) :
    (Errand.on o.store text k).run o report =
      match resolveId o.store.rules text with
      | .error f => (.failing f, o)
      | .ok id => (k id).run o report := by
  unfold Errand.on
  cases resolveId o.store.rules text <;> rfl

/-- An action runs the errand that comes of it. -/
theorem perform_eq (o : Opened σ) (a : Action) :
    perform o a = (a.errand o.store).run o a.report := by
  have called {α : Type} (x : Except Store.Error α × Opened σ) (reply : α → Reply) :
      (Outcome.ofResult x.1 fun r => a.report x.2.store (reply r), x.2) =
        (Outcome.ofResult (Prod.map (Except.map reply) id x).1 (a.report x.2.store), x.2) :=
    congrArg (·, x.2) (ofResult_map x.1 reply (a.report x.2.store)).symm
  cases a with
  | listRules => rfl
  | stats => rfl
  | addRule source target => exact called (o.addRule source target) .rule
  | editRule text edit =>
    simp only [perform, editRule, Action.errand]
    split
    · rfl
    · rw [run_on]
      cases resolveId o.store.rules text with
      | error f => rfl
      | ok id => exact called (o.updateRule id edit) .rule
  | enableRule text enabled =>
    simp only [perform, enableRule, Action.errand, run_on]
    cases resolveId o.store.rules text with
    | error f => rfl
    | ok id => exact called (o.setEnabled id enabled) .rule
  | deleteRule text sure =>
    simp only [perform, deleteRule, Action.errand, run_on]
    cases resolveId o.store.rules text with
    | error f => rfl
    | ok id =>
      cases sure with
      | true => exact called (o.deleteRule id) .rule
      | false => rfl
  | rate input clear =>
    have set (raw : String) : setRate o raw =
        (Errand.call (.rate raw)).run o (Action.rate input clear).report :=
      called (o.setRate raw) .rate
    cases clear with
    | true => cases input <;> exact set ""
    | false =>
      cases input with
      | none => rfl
      | some raw => exact set raw

/-- An action runs alike where nothing is refused. -/
theorem perform_withGuard (o : Opened σ) (a : Action) :
    perform o.withGuard a = Prod.map id Opened.withGuard (perform o a) := by
  have errand : a.errand o.withGuard.store = a.errand o.store := rfl
  rw [perform_eq, perform_eq, errand]
  cases a.errand o.store with
  | tell r => rfl
  | call c =>
    simp only [Errand.run, o.call_withGuard c]
    rfl

/-- An action that fails, or only reads, leaves the storage. -/
theorem medium_perform {o : Opened σ} {a : Action}
    (h : a.ReadsOnly ∨ (perform o a).1.failure ≠ none) : (perform o a).2.medium = o.medium := by
  have told : a.ReadsOnly → ∃ r, a.errand o.store = .tell r := by
    intro reads
    match a, reads with
    | .listRules, _ => exact ⟨_, rfl⟩
    | .stats, _ => exact ⟨_, rfl⟩
    | .rate none false, _ => exact ⟨_, rfl⟩
  rw [perform_eq] at h ⊢
  cases errand : a.errand o.store with
  | tell r => rfl
  | call c =>
    rw [errand] at h told
    rcases h with reads | failed
    · obtain ⟨r, none⟩ := told reads
      cases none
    · cases answer : (o.call c).1 with
      | error e => exact Opened.medium_call answer
      | ok a =>
        simp only [Errand.run, answer] at failed
        exact absurd rfl failed

end Perform

/-- Requests that save nothing. -/
def Request.ReadsOnly : Request → Prop
  | .action a => a.ReadsOnly
  | .watch => True

/-- Carries out a request; a watch is stopped after some rounds. -/
def carryOut (rounds : Nat) (o : Opened (Guarded Session)) :
    Request → Outcome × Opened (Guarded Session)
  | .action a => perform o a
  | .watch =>
    let w := (fun w : Watch => w.poll.drain)^[rounds] (.start o.store o.medium.medium)
    (.printing (w.shown.flatten.map .out),
      { o with store := w.store, medium := { o.medium with medium := w.stop } })

end Command

/-! ## Watching -/

namespace Watch

theorem database_take (w : Watch) : w.take.session.database = w.session.database := by
  obtain ⟨feed, took⟩ := w.session_take
  rw [took]
  rfl

theorem database_drain (w : Watch) : w.drain.session.database = w.session.database := by
  unfold drain
  induction (w.session.connection.feed.queue? w.listener).getD [] generalizing w with
  | nil => rfl
  | cons c cs ih => exact (ih w.take).trans w.database_take

/-- A watch writes nothing, however long it lasts. -/
theorem database_rounds (w : Watch) (n : Nat) :
    ((fun w : Watch => w.poll.drain)^[n] w).session.database = w.session.database := by
  induction n generalizing w with
  | zero => rfl
  | succ n ih =>
    rw [Function.iterate_succ_apply, ih, database_drain]
    exact w.session.database_poll

end Watch

/-- A request that fails, or only reads, leaves the database. -/
theorem Command.database_carryOut {rounds : Nat} {o : Opened (Guarded Session)} {r : Request}
    (h : r.ReadsOnly ∨ (carryOut rounds o r).1.failure ≠ none) :
    (carryOut rounds o r).2.medium.medium.database = o.medium.medium.database := by
  cases r with
  | action a => exact congrArg (fun g : Guarded Session => g.medium.database) (medium_perform h)
  | watch => exact (Watch.start o.store o.medium.medium).database_rounds rounds

/-! ## Databases among files -/

theorem Table.put_put {κ α : Type} [DecidableEq κ] (k : κ) (a b : α) (t : Table κ α) :
    Table.put k b (Table.put k a t) = Table.put k b t := by
  induction t with
  | nil => simp [Table.put]
  | cons p t ih =>
    by_cases h : k = p.1
    · simp [Table.put, h]
    · simp [Table.put, h, ih]

namespace Files

/-- What a row of the database at a place holds. -/
def cell? (f : Files) (l : Location) (row : String × String) : Option Cell :=
  (f.databases.get? l).bind fun d => d.rows.get? row

variable (f : Files) (here : Location) (path : String)

theorem keep_keep (d d' : Database) :
    (f.keep here path d).keep here path d' = f.keep here path d' := by
  unfold keep
  split
  · rfl
  · rw [Table.put_put]

/-- A database that is put back holds the rows of its place; a transient one leaves no trace. -/
theorem cell?_keep (d : Database) (l : Location) (row : String × String) :
    (f.keep here path d).cell? l row =
      if isTransient path = false ∧ l = locate here path then d.rows.get? row
      else f.cell? l row := by
  unfold keep cell?
  cases isTransient path with
  | true => simp
  | false =>
    simp only [Bool.false_eq_true, if_false, true_and, Table.get?_put]
    split <;> rfl

/-- A connection that is opened finds the rows of its place. -/
theorem cell?_of_openAt {s : Session} (lasting : isTransient path = false)
    (h : f.openAt here path = .ok s) (row : String × String) :
    f.cell? (locate here path) row = s.database.rows.get? row := by
  have found : Session.open? ((f.databases.get? (locate here path)).getD .empty) = .ok s := by
    simp only [openAt, lasting, Bool.false_eq_true, if_false] at h
    split at h
    · cases h
    · split at h
      · cases h
      · exact h
  have same : s.database = (f.databases.get? (locate here path)).getD .empty := by
    unfold Session.open? at found
    split at found <;> cases found
    rfl
  rw [same, cell?]
  cases f.databases.get? (locate here path) <;> rfl

/-- Making folders leaves the databases. -/
theorem databases_makeParent {f f' : Files} {here : Location} {path : String}
    (h : Command.makeParent f here path = .ok f') : f'.databases = f.databases := by
  unfold Command.makeParent at h
  split at h
  · cases h
    rfl
  · split at h
    · rename_i made
      cases h
      unfold makeFolder at made
      split at made
      · cases made
        rfl
      · split at made <;> cases made
        rfl
    · cases h

end Files

namespace Command

theorem linksOf_sound (c : Config) : (linksOf c).config.fault = none := by
  unfold linksOf
  cases c.syncEnabled <;> rfl

/-! ## Occasions -/

/-- Steps of a run that fail for reasons of their own: opening the database, saving ids that stored
rules were given, and saving what the action changed. -/
structure Hindrances where
  opening : Option StorageError
  loading : Option StorageError
  acting : Option StorageError

/-- What a run of the program finds. -/
structure Occasion where
  files : Files
  here : Location
  dataFolder : String
  config : Config
  ids : Supply
  hindrances : Hindrances
  /-- How often a watch polls before it is stopped. -/
  rounds : Nat

namespace Occasion

/-- The path of the database. -/
def path (x : Occasion) : String := x.config.databasePathIn x.dataFolder

/-- The place of the rules. -/
def rulesRow (x : Occasion) : String × String :=
  Database.rowOf (Opened.rulesPlace (linksOf x.config))

/-- The connection to the database, unless this fails, and the files then. -/
def connected (x : Occasion) : Except Failure Session × Files :=
  match makeParent x.files x.here x.path with
  | .error e => (.error e, x.files)
  | .ok f =>
    match x.hindrances.opening, f.openAt x.here x.path with
    | some e, _ => (.error (.database e), f)
    | none, .error e => (.error (.database e), f)
    | none, .ok s => (.ok s, f)

/-- The store that is opened, unless this fails, and the files then. -/
def opened (x : Occasion) : Except Failure (Opened (Guarded Session)) × Files :=
  match x.connected with
  | (.error e, f) => (.error e, f)
  | (.ok s, f) =>
    let o := Opened.openOn (linksOf x.config) (⟨s, x.hindrances.loading⟩ : Guarded Session) x.ids
    (.ok o, f.keep x.here x.path o.medium.medium.database)

/-- The outcome of a request, and the files after it. -/
def run (x : Occasion) (r : Request) : Outcome × Files :=
  match x.opened with
  | (.error e, f) => (.failing e, f)
  | (.ok o, f) =>
    let (r, o) := carryOut x.rounds (o.guarded x.hindrances.acting) r
    (r, f.keep x.here x.path o.medium.medium.database)

/-- No connection, or one that finds the rows of its place, and no row has changed. -/
theorem connected_cases (x : Occasion) :
    x.connected.2.databases = x.files.databases ∧
      ((∃ e, x.connected.1 = .error e) ∨
        ∃ s, x.connected.1 = .ok s ∧ x.connected.2.openAt x.here x.path = .ok s) := by
  unfold connected
  cases made : makeParent x.files x.here x.path with
  | error e => exact ⟨rfl, .inl ⟨e, rfl⟩⟩
  | ok f =>
    have same := Files.databases_makeParent made
    dsimp only
    cases x.hindrances.opening with
    | some e => exact ⟨same, .inl ⟨_, rfl⟩⟩
    | none =>
      cases found : f.openAt x.here x.path with
      | error e => exact ⟨same, .inl ⟨_, rfl⟩⟩
      | ok s => exact ⟨same, .inr ⟨s, rfl, found⟩⟩

/-- A run that fails, or only reads, leaves the files as they were right after opening. -/
theorem files_run (x : Occasion) (r : Request)
    (h : r.ReadsOnly ∨ (x.run r).1.failure ≠ none) : (x.run r).2 = x.opened.2 := by
  obtain ⟨⟨_ | s, f⟩, hc⟩ : ∃ c, x.connected = c := ⟨_, rfl⟩
  · simp only [run, opened, hc]
  · simp only [run, opened, hc] at h ⊢
    rw [database_carryOut h]
    exact f.keep_keep x.here x.path _ _

/-- Opening changes the row of the rules, if it has an item without a usable id, and no other. -/
theorem cell?_opened (x : Occasion) {l : Location} {row : String × String}
    (h : x.opened.2.cell? l row ≠ x.files.cell? l row) :
    Files.isTransient x.path = false ∧ l = Files.locate x.here x.path ∧ row = x.rulesRow ∧
      ∃ text items, x.files.cell? l row = some (.text text) ∧
        Json.read? text = some (.array items) ∧ ∃ item ∈ items, Rule.storedId? item = none := by
  obtain ⟨same, connection⟩ := x.connected_cases
  have before : x.connected.2.cell? l row = x.files.cell? l row := by
    unfold Files.cell?
    rw [same]
  rw [← before] at h ⊢
  obtain ⟨⟨c, f⟩, hc⟩ : ∃ c, x.connected = c := ⟨_, rfl⟩
  simp only [hc] at h connection ⊢
  rcases connection with ⟨e, rfl⟩ | ⟨s, rfl, opens⟩
  · simp only [opened, hc, ne_eq, not_true_eq_false] at h
  · simp only [opened, hc, Files.cell?_keep] at h
    split at h
    · rename_i here
      obtain ⟨lasting, rfl⟩ := here
      have held := f.cell?_of_openAt x.here x.path lasting opens row
      rw [held] at h ⊢
      obtain ⟨rfl, text, v, found, read, needs⟩ := Opened.rows_openOn (linksOf_sound x.config) h
      cases v with
      | array items =>
        have lacks : ∃ item ∈ items, Rule.storedId? item = none := by
          simpa [Rule.needsIds, Json.items?] using needs
        exact ⟨lasting, rfl, rfl, text, items, found, read, lacks⟩
      | _ => cases needs
    · exact absurd rfl h

/-- Without hindrances, an action is run as the program runs it. -/
theorem run_eq (x : Occasion) (h : x.hindrances = ⟨none, none, none⟩) (a : Action) :
    x.run (.action a) =
      let r := runIn x.files x.here x.dataFolder x.config x.ids a
      (r.1, r.2.1) := by
  have path : x.path = x.config.databasePathIn x.dataFolder := rfl
  cases made : makeParent x.files x.here x.path with
  | error e => simp only [run, opened, connected, runIn, ← path, made]
  | ok f =>
    cases found : f.openAt x.here x.path with
    | error e => simp only [run, opened, connected, runIn, ← path, made, h, found]
    | ok s =>
      have loaded := Opened.openOn_withGuard (linksOf x.config) s x.ids
      simp only [run, opened, connected, runIn, ← path, made, h, found, loaded, carryOut,
        Opened.guarded_withGuard, perform_withGuard, Files.keep_keep]
      rfl

/-- A request that fails at any step, or only reads, leaves all files as they were right after
opening. These differ from the files before in one row at most, that of the rules in the database
that was opened, and there only if its text was an array with an item without a usable id. Without
hindrances, this is so for the program as it is run. -/
theorem keeps_rows (x : Occasion) (r : Request) :
    (∀ a, r = .action a → x.hindrances = ⟨none, none, none⟩ →
      x.run r =
        let q := runIn x.files x.here x.dataFolder x.config x.ids a
        (q.1, q.2.1)) ∧
    (r.ReadsOnly ∨ (x.run r).1.failure ≠ none → (x.run r).2 = x.opened.2) ∧
    ∀ l row, x.opened.2.cell? l row ≠ x.files.cell? l row →
      Files.isTransient x.path = false ∧ l = Files.locate x.here x.path ∧ row = x.rulesRow ∧
        ∃ text items, x.files.cell? l row = some (.text text) ∧
          Json.read? text = some (.array items) ∧ ∃ item ∈ items, Rule.storedId? item = none :=
  ⟨fun a hr free => hr ▸ x.run_eq free a, x.files_run r, fun _ _ => x.cell?_opened⟩

/-- A stored rule is given an id at opening, and is not deleted without a confirmation. -/
theorem keeps_rows_unconfirmed :
    let row := Database.rowOf ⟨.device, Store.rulesKey⟩
    let d : Database := Database.empty.upsert row (.text "[\x7b\x7d]")
    let config : Config := ⟨some "a", false, 500⟩
    let x : Occasion := ⟨⟨[], [], [(["a"], d)]⟩, [], "", config, .from 0, ⟨none, none, none⟩, 0⟩
    let r : Request := .action (.deleteRule "00000000" false)
    (x.run r).1.failure = some .notATerminal ∧ (x.run r).2 = x.opened.2 ∧
      ["a"] = Files.locate x.here x.path ∧
      ∃ text items, x.files.cell? ["a"] row = some (.text text) ∧
        Json.read? text = some (.array items) ∧ ∃ item ∈ items, Rule.storedId? item = none := by
  intro row d config x r
  have onward : String.splitOnAux "a" "/" 0 0 0 [] = String.splitOnAux "a" "/" 0 ⟨1⟩ 0 [] := by
    rw [String.splitOnAux, if_neg (by decide +kernel), if_neg (by decide +kernel)]
    rfl
  have names : Files.names "a" = ["a"] := by
    rw [Files.names, String.splitOn, if_neg (by decide +kernel), onward, String.splitOnAux,
      if_pos (by decide +kernel)]
    decide +kernel
  have relative : "a".startsWith "/" = false := by decide +kernel
  have located : Files.locate [] "a" = ["a"] := by
    simp [Files.locate, Files.origin, Files.step, names, relative]
  have folder : makeParent x.files [] "a" = .ok x.files := by
    simp [makeParent, Files.parent?, names, Files.dropIdle, Files.makeFolder]
  let s : Session := ⟨d, ⟨[(⟨.device, Store.rulesKey⟩, "[\x7b\x7d]")], 1, 0, .empty⟩⟩
  have found : x.files.openAt [] "a" = .ok s := by
    simp only [Files.openAt, located]
    rfl
  have path : x.path = "a" := rfl
  have root : x.here = [] := rfl
  have connected : x.connected = (.ok s, x.files) := by
    simp only [Occasion.connected, path, root, folder, found]
    rfl
  obtain ⟨-, kept, opened⟩ := keeps_rows x r
  have fails : (x.run r).1.failure = some .notATerminal := by
    simp only [run, Occasion.opened, connected]
    decide +kernel
  have given : x.opened.2.cell? ["a"] row ≠ x.files.cell? ["a"] row := by
    simp only [Occasion.opened, connected, Files.cell?_keep, path, root, located]
    decide +kernel
  obtain ⟨-, here, -, item⟩ := opened ["a"] row given
  exact ⟨fails, kept (.inr (by rw [fails]; nofun)), here, item⟩

end Occasion

end Command

end Reroute
