import TreeHaul.Decimal.Shortest
import TreeHaul.Store.Table
import TreeHaul.Text.Quoted

/-!
The contents of a table as text, on one line or with a line for each item.
-/

namespace TreeHaul.Store

/-- What is shown of a payload. -/
inductive Shown where
  | atom (text : String)
  | list (items : List String)

namespace Shown

def ofInt (n : Int) : Shown := atom (toString n)

/-- Running totals from `0.0001` to below `10 ^ 16` are written without an exponent. -/
def totals : Decimal.Layout := ⟨-4, 16⟩

def ofTotal (x : Float) : Shown := atom (totals.render x.toBits)

def ofInts (xs : List Int) : Shown := list (xs.map toString)

def indent (depth : Nat) : String := String.ofList (List.replicate (4 * depth) ' ')

/-- Items between brackets, each on a line of its own with a comma after it. -/
def block (left right : String) (depth : Nat) (items : List String) : String :=
  if items.isEmpty then left ++ right
  else left ++ "\n" ++ String.join (items.map fun s => indent (depth + 1) ++ s ++ ",\n")
    ++ indent depth ++ right

def line (left right : String) (items : List String) : String :=
  left ++ ", ".intercalate items ++ right

def flat : Shown → String
  | atom s => s
  | list items => line "[" "]" items

def tall (depth : Nat) : Shown → String
  | atom s => s
  | list items => block "[" "]" depth items

end Shown

namespace Table

variable {V : Type}

/-- One pair: the key in quotes, and what `draw` makes of its payload. -/
def item (draw : Shown → String) (view : V → Shown) (node : String × V) : String :=
  Text.Quoted.encode node.1 ++ ": " ++ draw (view node.2)

/-- The pairs in iteration order, on one line. -/
def outline (view : V → Shown) (t : Table V) : String :=
  Shown.line "\x7b" "\x7d" (t.toList.map (item Shown.flat view))

/-- The pairs in iteration order, a line for each and four blanks for each level. -/
def tallOutline (view : V → Shown) (t : Table V) : String :=
  Shown.block "\x7b" "\x7d" 0 (t.toList.map (item (Shown.tall 1) view))

end Table

end TreeHaul.Store
