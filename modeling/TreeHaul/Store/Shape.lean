import TreeHaul.Store.Table

/-!
The shape of a table: how full its buckets are and how long its chains.
-/

universe u

namespace TreeHaul.Store

/-- A snapshot of how the nodes of a table are spread. -/
structure Shape where
  entries : Nat
  buckets : Nat
  emptyBuckets : Nat
  longestChain : Nat

namespace Shape

/-- Entries per bucket, rounded to the nearest double. -/
def loadFactor (s : Shape) : Float :=
  s.entries.toUInt64.toFloat / s.buckets.toUInt64.toFloat

end Shape

/-- Counts one chain: an empty bucket, or a candidate for the longest. -/
def measureChain (acc : Nat × Nat) (length : Nat) : Nat × Nat :=
  (if length = 0 then acc.1 + 1 else acc.1, max acc.2 length)

def Table.shape {V : Type u} (t : Table V) : Shape :=
  let (empty, longest) := (t.buckets.toList.map List.length).foldl measureChain (0, 0)
  ⟨t.size, t.bucketCount, empty, longest⟩

end TreeHaul.Store
