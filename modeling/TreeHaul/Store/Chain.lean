/-!
Chains: the nodes of one bucket, head first.

Removal walks a chain twice. The first walk counts the nodes before the wanted one, the second
takes that many steps and unlinks the node it stands on.
-/

universe u

namespace TreeHaul.Store

/-- The nodes of one bucket, the newest at the head. -/
abbrev Chain (V : Type u) := List (String × V)

namespace Chain

variable {V : Type u}

/-- The payload of the first node with this key. -/
def find? (key : String) : Chain V → Option V
  | [] => none
  | (k, v) :: rest => if k = key then some v else find? key rest

/-- Changes the payload of the first node with this key, in place. -/
def modify (key : String) (f : V → V) : Chain V → Chain V
  | [] => []
  | (k, v) :: rest => if k = key then (k, f v) :: rest else (k, v) :: modify key f rest

/-- How many nodes stand before the first one with this key. -/
def position? (key : String) : Chain V → Option Nat
  | [] => none
  | (k, _) :: rest => if k = key then some 0 else (position? key rest).map (· + 1)

/-- Unlinks the node that stands after `i` others, and joins its suffix to what came before. -/
def unlink? : Nat → Chain V → Option (V × Chain V)
  | _, [] => none
  | 0, (_, v) :: rest => some (v, rest)
  | i + 1, node :: rest => (unlink? i rest).map fun (v, c) => (v, node :: c)

@[simp] theorem find?_nil (key : String) : find? key ([] : Chain V) = none := rfl

@[simp] theorem length_modify (key : String) (f : V → V) (c : Chain V) :
    (modify key f c).length = c.length := by
  induction c with
  | nil => rfl
  | cons n rest ih => by_cases h : n.1 = key <;> simp [modify, h, ih]

/-- Changing a payload keeps the keys and their order. -/
theorem map_fst_modify (key : String) (f : V → V) (c : Chain V) :
    (modify key f c).map Prod.fst = c.map Prod.fst := by
  induction c with
  | nil => rfl
  | cons n rest ih => by_cases h : n.1 = key <;> simp [modify, h, ih]

end Chain

end TreeHaul.Store
