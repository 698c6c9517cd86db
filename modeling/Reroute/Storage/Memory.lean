import Reroute.Storage.Feed
import Reroute.Storage.Table

/-!
# Storage in memory

Values are kept as they are. A write announces the change unless the new value equals the old one.

## Main definitions

* `Memory` — entries and feed, `Memory.set` — a write.
-/

namespace Reroute

/-- Entries in memory and the feed of their changes. -/
structure Memory where
  entries : Table Place Json
  feed : Feed

namespace Memory

def empty : Memory := ⟨[], .empty⟩

/-- The value of a place. -/
def get (m : Memory) (p : Place) : Option Json := m.entries.get? p

/-- Writes a value and announces it. -/
def set (m : Memory) (p : Place) (v : Json) : Memory where
  entries := m.entries.put p v
  feed :=
    let old := m.entries.get? p
    if old.any (·.same v) then m.feed else m.feed.publish ⟨p, old, some v⟩

instance : Medium Memory where
  read m p := .ok (m.get p)
  write m p v := .ok (m.set p v)

theorem get_set (m : Memory) (p q : Place) (v : Json) :
    (m.set p v).get q = if q = p then some v else m.get q := by
  simp [get, set, Table.get?_put]

end Memory

end Reroute
