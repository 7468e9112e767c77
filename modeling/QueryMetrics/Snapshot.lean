import QueryMetrics.Number.Binary64

/-!
# Snapshots

The last complete result of something that is computed now and then. Readers get the whole result
and its age; a new result replaces the old one as a whole.
-/

namespace QueryMetrics

/-- The last complete result, with the time at which it was stored. -/
structure Snapshot (α : Type) where
  items : List α := []
  storedAt : Option Binary64 := none
  deriving DecidableEq

namespace Snapshot

variable {α : Type}

/-- Stores a new result. -/
def replace (_old : Snapshot α) (items : List α) (now : Binary64) : Snapshot α :=
  ⟨items, some now⟩

/-- The time since a result was stored; nothing before the first one. -/
def age (snapshot : Snapshot α) (now : Binary64) : Option Binary64 :=
  snapshot.storedAt.map fun stored => now - stored

end Snapshot

end QueryMetrics
