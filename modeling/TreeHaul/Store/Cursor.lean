import TreeHaul.Store.Table

/-!
Iteration: a cursor over the chains of a table, with the count of pairs still to come.
-/

universe u

namespace TreeHaul.Store

variable {V : Type u}

/-- Where an iteration stands: the rest of the chain it is in, then the buckets after it. -/
structure Cursor (V : Type u) where
  chain : Chain V
  buckets : List (Chain V)
  remaining : Nat

namespace Cursor

/-- The next node, past buckets that are empty. -/
def advance (chain : Chain V) : List (Chain V) → Option (String × V) × Chain V × List (Chain V)
  | [] =>
    match chain with
    | [] => (none, [], [])
    | node :: rest => (some node, rest, [])
  | bucket :: buckets =>
    match chain with
    | [] => advance bucket buckets
    | node :: rest => (some node, rest, bucket :: buckets)

/-- Steps to the next pair; a finished cursor stays finished. -/
def next (c : Cursor V) : Option (String × V) × Cursor V :=
  match advance c.chain c.buckets with
  | (none, chain, buckets) => (none, { c with chain := chain, buckets := buckets })
  | (some node, chain, buckets) => (some node, ⟨chain, buckets, c.remaining - 1⟩)

/-- How many pairs are promised: at least and at most the ones that remain. -/
def sizeHint (c : Cursor V) : Nat × Option Nat := (c.remaining, some c.remaining)

/-- The answers of the next `n` steps, each with the promise made before it. -/
def trace : Nat → Cursor V → List ((Nat × Option Nat) × Option (String × V))
  | 0, _ => []
  | n + 1, c => (c.sizeHint, c.next.1) :: trace n c.next.2

end Cursor

/-- A cursor at the start of a table. -/
def Table.cursor (t : Table V) : Cursor V := ⟨[], t.buckets.toList, t.size⟩

end TreeHaul.Store
