import Reroute.Storage.Basic

/-!
# Links

A store reaches an area through a link. A link may have a fault: then there is nothing behind it,
and reading or writing fails, or both.

## Main definitions

* `Link` — links and their faults, `Link.read`, `Link.write`.
-/

namespace Reroute

/-- What fails at a link with nothing behind it. -/
structure Fault where
  reads : Bool
  writes : Bool
  deriving DecidableEq

namespace Fault

def unavailable : Fault := ⟨true, true⟩

def readOnly : Fault := ⟨false, true⟩

def writeOnly : Fault := ⟨true, false⟩

end Fault

/-- How an area is reached. -/
structure Link where
  area : Area
  fault : Option Fault
  deriving DecidableEq

namespace Link

/-- A link that works. -/
def sound (a : Area) : Link := ⟨a, none⟩

/-- The value under a key. -/
def read [Medium σ] (p : Link) (m : σ) (key : String) : Except StorageError (Option Json) :=
  match p.fault with
  | none => Medium.read m ⟨p.area, key⟩
  | some f => if f.reads then .error .unavailable else .ok none

/-- Puts a value under a key. -/
def write [Medium σ] (p : Link) (m : σ) (key : String) (v : Json) : Except StorageError σ :=
  match p.fault with
  | none => Medium.write m ⟨p.area, key⟩ v
  | some f => if f.writes then .error .quotaExceeded else .ok m

end Link

end Reroute
