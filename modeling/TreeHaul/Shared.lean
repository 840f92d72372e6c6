/-!
A value shared by workers. Each worker makes its updates in its own order, one at a time, and each
update sees the value that the one before it left, whichever worker made that.
-/

universe u

namespace TreeHaul.Shared

variable {α : Type u}

/-- The value after updates, the first one first. -/
def run (start : α) (updates : List (α → α)) : α := updates.foldl (fun a f => f a) start

@[simp] theorem run_nil (a : α) : run a [] = a := rfl
@[simp] theorem run_cons (a : α) (f : α → α) (fs : List (α → α)) :
    run a (f :: fs) = run (f a) fs := rfl
theorem run_append (a : α) (fs gs : List (α → α)) : run a (fs ++ gs) = run (run a fs) gs := by
  simp [run, List.foldl_append]

/-! ### Handles -/

/-- What a worker holds of a shared value: not the value, but where it is. -/
structure Handle where
  place : Nat
  deriving DecidableEq

/-- Another handle to the same value. -/
def Handle.clone (h : Handle) : Handle := h

/-- The values that are shared, each in its place. -/
abbrev Cells (α : Type u) := List α

namespace Cells

/-- Shares a value, and hands the first handle to it out. -/
def new (cells : Cells α) (a : α) : Handle × Cells α := (⟨cells.length⟩, cells ++ [a])

/-- One update, made by whoever has the handle while nobody else can reach the value. -/
def update (cells : Cells α) (h : Handle) (f : α → α) : Cells α := cells.modify h.place f

end Cells

/-! ### Adders -/

/-- The order of updates in which each worker waits for the one before it to be done. -/
def inTurn (workers : List (List (α → α))) : List (α → α) := workers.flatten

/-- Adds `k` to a word. -/
def add (k : Nat) (n : Int64) : Int64 := n + Int64.ofNat k

/-- Workers `0`, `1`, … below `threads`, of which worker `k` adds `k` so many times. -/
def adders (threads times : Nat) : List (List (Int64 → Int64)) :=
  (List.range threads).map fun k => List.replicate times (add k)

/-- A total as a double. -/
def mean (n : Int64) : Float := n.toFloat

end TreeHaul.Shared
