import Reroute.Command.Stats
import Reroute.Storage.Database

/-!
# The watch command

Totals and breakdown are shown at the start and whenever an announced change renews metrics or
settings. Other connections are polled from time to time.

## Main definitions

* `Watch` — store, session, and the blocks shown so far.
* `Watch.start`, `Watch.poll`, `Watch.take`, `Watch.drain`, `Watch.stop`.
-/

namespace Reroute

/-- A watched store, the session it is watched through, its place in the feed, and what was
shown. -/
structure Watch where
  store : Store
  session : Session
  listener : Nat
  shown : List (List String)

namespace Watch

/-- Starts to listen and shows the first block. -/
def start (store : Store) (s : Session) : Watch :=
  let (i, f) := s.connection.feed.subscribe
  ⟨store, s.withFeed f, i, [Command.statsLines store]⟩

/-- Polls other connections; a poll that fails is tried again later. -/
def poll (w : Watch) : Watch := { w with session := w.session.poll.2 }

/-- Takes the next change, if there is one, and shows a block when it renews something. -/
def take (w : Watch) : Watch :=
  match w.session.connection.feed.next w.listener with
  | (.change c, f) =>
    let w := { w with session := w.session.withFeed f }
    match w.store.handle c with
    | (some _, store) => { w with store, shown := w.shown ++ [Command.statsLines store] }
    | (none, store) => { w with store }
  | _ => w

/-- Takes as many changes as are waiting. -/
def drain (w : Watch) : Watch :=
  ((w.session.connection.feed.queue? w.listener).getD []).foldl (fun w _ => w.take) w

/-- Stops listening. -/
def stop (w : Watch) : Session :=
  w.session.withFeed (w.session.connection.feed.leave w.listener)

end Watch

end Reroute
