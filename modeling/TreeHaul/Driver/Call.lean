import TreeHaul.Driver.Basic

/-!
Everything that can happen to one entry, as data, so that its history is a list of calls.

Beside what a driver is asked there is what its user may do to the entry directly: give the record
up, and note how something ended.
-/

universe u

namespace TreeHaul

open TreeHaul.Path

/-- One call on an entry. The type says what it answers with. -/
inductive Call : Type → Type 1 where
  | request {α : Type} (r : Request α) : Call (Except PathError α)
  | stat (follow : Bool) : Call (Except PathError Stat)
  | statDefault : Call (Except PathError Stat)
  | exists? : Call Bool
  | isDir : Call Bool
  | isLink : Call Bool
  | size : Call (Except PathError UInt64)
  | mtime : Call (Except PathError Instant)
  | follow : Call Unit
  | finalize : Call Unit
  | reset (path : String) : Call Unit
  | invalidateStat : Call Unit
  | record (op : String) (r : Except PathError Unit) : Call (Except PathError Unit)
  | recordMutation (op : String) (r : Except PathError Unit) : Call (Except PathError Unit)
  /-- Notes that a backend does not have a capability. -/
  | decline (op : String) (backend : Backend) : Call (Except PathError Unit)
  /-- Notes that the entry was in the wrong state. -/
  | reject (op reason : String) : Call (Except PathError Unit)

namespace Driver

variable {σ : Type u} {δ α : Type} [Driver σ δ]

/-- Carries one call out. -/
def call : Call α → δ → σ → α × δ × σ
  | .request r, d, w => perform r d w
  | .stat follow, d, w => stat follow d w
  | .statDefault, d, w => statDefault d w
  | .exists?, d, w => exists? d w
  | .isDir, d, w => isDir d w
  | .isLink, d, w => isLink d w
  | .size, d, w => size d w
  | .mtime, d, w => mtime d w
  | .follow, d, w => ((), follow d, w)
  | .finalize, d, w => ((), finalize d w)
  | .reset path, d, w => ((), reset path d w)
  | .invalidateStat, d, w => ((), mapEntry Entry.invalidateStat d, w)
  | .record op r, d, w => observed op r d w
  | .recordMutation op r, d, w => changed op r d w
  | .decline op b, d, w => observed op (.error (.unsupported op b)) d w
  | .reject op reason, d, w => rejected op reason d w

/-- The entry and the world after a history. -/
def run (history : List (Sigma Call)) (d : δ) (w : σ) : δ × σ :=
  history.foldl (fun s c => (call c.2 s.1 s.2).2) (d, w)

@[simp] theorem run_nil (d : δ) (w : σ) : run [] d w = (d, w) := rfl
@[simp] theorem run_cons (c : Sigma Call) (cs : List (Sigma Call)) (d : δ) (w : σ) :
    run (c :: cs) d w = run cs (call c.2 d w).2.1 (call c.2 d w).2.2 := rfl
theorem run_append (cs ds : List (Sigma Call)) (d : δ) (w : σ) :
    run (cs ++ ds) d w = run ds (run cs d w).1 (run cs d w).2 := by
  simp [run, List.foldl_append]

end Driver

end TreeHaul
