import Mathlib.Logic.Function.Basic
import Reroute.Proofs.Storage.Faithful

/-!
# Storages that are shared

Several stores may use one storage, each through its own handle. A memory has one handle for all;
every handle of a database is a connection with its own snapshot and feed. Who wrote a value last is
seen if those who write put their numbers down.

## Main definitions

* `Handled` — a storage that is used through handles.
* `Pool` — the connections of one database.
* `Signed` — a storage that keeps who wrote each of its values last.

## Main results

* `Pool.faithful`, `Signed.faithful` — what is written through one handle is read through all.
-/

namespace Reroute

/-- A storage that is used through handles, which all read the same values. -/
class Handled (σ : Type) [Medium σ] where
  /-- Goes on with a handle. -/
  turn : Nat → σ → σ
  read_turn : ∀ h m p, Medium.read (turn h m) p = Medium.read m p

instance : Handled Memory where
  turn _ m := m
  read_turn _ _ _ := rfl

/-! ## Databases -/

/-- The connections of one database, and the one that is used. -/
structure Pool where
  database : Database
  connections : Nat → Connection
  hand : Nat

namespace Pool

/-- The connection that is used, at the database. -/
def session (f : Pool) : Session := ⟨f.database, f.connections f.hand⟩

/-- Something happens at the connection that is used. -/
def withSession (f : Pool) (s : Session) : Pool :=
  ⟨s.database, Function.update f.connections f.hand s.connection, f.hand⟩

instance : Medium Pool where
  read f p := f.session.get p
  write f p v := .ok (f.withSession (f.session.set p v))

instance : Handled Pool where
  turn h f := { f with hand := h }
  read_turn _ _ _ := rfl

@[simp] theorem session_withSession (f : Pool) (s : Session) : (f.withSession s).session = s := by
  simp [session, withSession]

theorem write_eq_ok {f f' : Pool} {p : Place} {v : Json} (h : Medium.write f p v = .ok f') :
    Medium.write f.session p v = .ok f'.session := by
  cases h
  simp [Medium.write]

theorem faithful : Medium.Faithful Pool fun v => Json.read? v.print = some v where
  write_ok _ _ _ := ⟨_, rfl⟩
  read_written written := Session.faithful.read_written (write_eq_ok written)
  read_other written := Session.faithful.read_other (write_eq_ok written)

end Pool

/-! ## Authors -/

/-- A storage, the number of who writes now, and the numbers of those who wrote its values last. -/
structure Signed (σ : Type) where
  medium : σ
  hand : Nat
  author : Place → Option Nat

namespace Signed

variable {σ : Type} [Medium σ] {kept : Json → Prop}

instance : Medium (Signed σ) where
  read g p := Medium.read g.medium p
  write g p v := (Medium.write g.medium p v).map fun m =>
    ⟨m, g.hand, Function.update g.author p (some g.hand)⟩

/-- A write succeeds if it would succeed without a signature, and signs the value. -/
theorem write_eq_ok {g g' : Signed σ} {p : Place} {v : Json} :
    Medium.write g p v = .ok g' ↔ ∃ m, Medium.write g.medium p v = .ok m ∧
      g' = ⟨m, g.hand, Function.update g.author p (some g.hand)⟩ := by
  simp only [Medium.write]
  cases Medium.write g.medium p v <;> simp [Except.map, eq_comm]

theorem faithful (hm : Medium.Faithful σ kept) : Medium.Faithful (Signed σ) kept where
  write_ok g p v := by
    obtain ⟨m, written⟩ := hm.write_ok g.medium p v
    exact ⟨_, write_eq_ok.2 ⟨m, written, rfl⟩⟩
  read_written := by
    intro g g' p v signed hv
    obtain ⟨m, written, rfl⟩ := write_eq_ok.1 signed
    have read : Medium.read m p = .ok (some v) := hm.read_written written hv
    exact read
  read_other := by
    intro g g' p q v signed other
    obtain ⟨m, written, rfl⟩ := write_eq_ok.1 signed
    have read : Medium.read m q = Medium.read g.medium q := hm.read_other written other
    exact read

end Signed

end Reroute
