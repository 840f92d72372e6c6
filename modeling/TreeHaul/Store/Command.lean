import TreeHaul.Store.Table

/-!
The operations of a table as data, so that a history is a list of commands.
-/

universe u

namespace TreeHaul.Store

/-- One call on a table. -/
inductive Command (V : Type u) where
  | insert (key : String) (value : V)
  | find (key : String)
  | modify (key : String) (f : V → V)
  | contains (key : String)
  | update (key : String) (value : V)
  | updateWith (key : String) (f : V → V)
  | remove (key : String)
  | resize (count : Nat)
  | clear
  | size
  | isEmpty
  | accumulate (plus : V → V → V) (key : String) (delta : V)

/-- What a call answers. -/
inductive Answer (V : Type u) where
  | done
  | found (value? : Option V)
  | payload (value : V)
  | flag (value : Bool)
  | count (value : Nat)
  | refused (reason : StoreError)

namespace Answer

variable {V : Type u}

def ofUnit : Except StoreError Unit → Answer V
  | .ok () => .done
  | .error e => .refused e

def ofPayload : Except StoreError V → Answer V
  | .ok v => .payload v
  | .error e => .refused e

end Answer

namespace Table

variable {V : Type u}

/-- Carries one command out. -/
def perform (t : Table V) : Command V → Answer V × Table V
  | .insert key value => let (r, t) := t.insert key value; (.ofUnit r, t)
  | .find key => (.found (t.find? key), t)
  | .modify key f => let (r, t) := t.modify? key f; (.found r, t)
  | .contains key => (.flag (t.contains key), t)
  | .update key value => let (r, t) := t.update key value; (.ofPayload r, t)
  | .updateWith key f => let (r, t) := t.updateWith key f; (.ofUnit r, t)
  | .remove key => let (r, t) := t.remove key; (.ofPayload r, t)
  | .resize count => let (r, t) := t.resize count; (.ofUnit r, t)
  | .clear => (.done, t.clear)
  | .size => (.count t.size, t)
  | .isEmpty => (.flag t.isEmpty, t)
  | .accumulate plus key delta =>
    let (total, t) := t.accumulate plus key delta
    (.payload total, t)

/-- The table after a history. -/
def run (t : Table V) (history : List (Command V)) : Table V :=
  history.foldl (fun t c => (t.perform c).2) t

@[simp] theorem run_nil (t : Table V) : t.run [] = t := rfl
@[simp] theorem run_cons (t : Table V) (c : Command V) (cs : List (Command V)) :
    t.run (c :: cs) = (t.perform c).2.run cs := rfl
theorem run_append (t : Table V) (cs ds : List (Command V)) :
    t.run (cs ++ ds) = (t.run cs).run ds := by
  simp [run, List.foldl_append]

end Table

end TreeHaul.Store
