import Reroute.Proofs.Storage.Faithful
import Reroute.Proofs.Storage.Log
import Reroute.Proofs.Store.Operations

/-!
# Stores that share a connection

Several stores are opened on one connection of a database. Each listens to the feed from its opening
on, and takes metrics and settings from the changes that are delivered to it.

## Main definitions

* `System`, `System.step` — stores with their listeners, and what may happen to them.
-/

namespace Reroute

/-- Stores, each with the number under which it listens, on one connection. -/
structure System where
  session : Session
  ids : Supply
  stores : List (Store × Nat)

namespace System

/-- A connection without stores. -/
def start (s : Session) (ids : Supply) : System := ⟨s, ids, []⟩

/-- What may happen: a store is opened and begins to listen, a store operates, something happens at
the connection or its database without a store, or a store takes the next change. -/
inductive Event where
  | join (shared : Bool)
  | act (k : Nat) (a : Act)
  | session (e : Session.Event)
  | deliver (k : Nat)

def step (t : System) : Event → System
  | .join shared =>
    let o := Opened.openOn (.working shared) t.session t.ids
    let (i, session) := o.medium.subscribe
    ⟨session, o.ids, t.stores ++ [(o.store, i)]⟩
  | .act k a =>
    match t.stores[k]? with
    | some (s, i) =>
      let o := (⟨s, t.session, t.ids⟩ : Opened Session).act a
      ⟨o.medium, o.ids, t.stores.set k (o.store, i)⟩
    | none => t
  | .session e => { t with session := t.session.step e }
  | .deliver k =>
    match t.stores[k]? with
    | some (s, i) =>
      match t.session.connection.feed.next i with
      | (.change c, feed) =>
        ⟨t.session.withFeed feed, t.ids, t.stores.set k ((s.handle c).2, i)⟩
      | _ => t
    | none => t

/-- The system after some events. -/
def after (t : System) (es : List Event) : System := es.foldl step t

end System

end Reroute
