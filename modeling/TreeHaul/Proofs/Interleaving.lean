import Mathlib.Algebra.BigOperators.Intervals
import Mathlib.Algebra.Ring.Parity
import Mathlib.Data.List.FinRange
import Mathlib.Logic.Function.Basic
import TreeHaul.Shared

/-!
Workers with handles to one shared value. A handle is cloned at any time, from the first one or from
a clone, and each update is one step; the order of all steps is arbitrary. Whatever it is, the value
is what the updates made of it one after the other, and these are the updates of all workers, merged.
Where updates of different workers commute, the merge can be sorted by workers.
-/

universe u

namespace TreeHaul.Shared

variable {α β : Type u} {N : ℕ}

/-! ### Merges -/

/-- What one worker has in a common list. -/
def made (i : Fin N) (log : List (Fin N × β)) : List β :=
  (log.filter fun c => c.1 = i).map Prod.snd

/-- What the others have in it. -/
def without (i : Fin N) (log : List (Fin N × β)) : List (Fin N × β) := log.filter fun c => c.1 ≠ i

/-- A merge of lists has each of them in its order, and nothing besides. -/
def Merges (programs : Fin N → List β) (log : List (Fin N × β)) : Prop :=
  ∀ i, made i log = programs i

section Merges

variable {i j : Fin N} {log : List (Fin N × β)}

@[simp] lemma made_nil (i : Fin N) : made i ([] : List (Fin N × β)) = [] := rfl

lemma made_append (i : Fin N) (log rest : List (Fin N × β)) :
    made i (log ++ rest) = made i log ++ made i rest := by
  rw [made, List.filter_append, List.map_append, made, made]

lemma made_cons_self (i : Fin N) (f : β) (log : List (Fin N × β)) :
    made i ((i, f) :: log) = f :: made i log := by
  simp [made]

lemma made_cons_of_ne (h : j ≠ i) (f : β) (log : List (Fin N × β)) :
    made i ((j, f) :: log) = made i log := by
  simp [made, h]

lemma mem_made {c : Fin N × β} (h : c ∈ log) : c.2 ∈ made c.1 log :=
  List.mem_map_of_mem (List.mem_filter.mpr ⟨h, decide_eq_true rfl⟩)

lemma mem_of_mem_made {f : β} (h : f ∈ made i log) : (i, f) ∈ log := by
  obtain ⟨⟨j, g⟩, hmem, rfl⟩ := List.mem_map.mp h
  obtain ⟨hlog, hj⟩ := List.mem_filter.mp hmem
  rwa [← of_decide_eq_true hj]

lemma without_cons_self (i : Fin N) (f : β) (log : List (Fin N × β)) :
    without i ((i, f) :: log) = without i log := by
  simp [without]

lemma without_cons_of_ne (h : j ≠ i) (f : β) (log : List (Fin N × β)) :
    without i ((j, f) :: log) = (j, f) :: without i log := by
  simp [without, h]

lemma made_without (h : j ≠ i) (log : List (Fin N × β)) : made j (without i log) = made j log := by
  rw [made, without, List.filter_filter, made]
  refine congrArg _ (List.filter_congr fun c _ => ?_)
  by_cases hc : c.1 = j
  · simp [hc, h]
  · simp [hc]

end Merges

/-! ### Updates that commute -/

/-- Updates of different workers commute. -/
def Independent (log : List (Fin N × (α → α))) : Prop :=
  ∀ c ∈ log, ∀ d ∈ log, c.1 ≠ d.1 → ∀ a, c.2 (d.2 a) = d.2 (c.2 a)

section Sorted

variable {log : List (Fin N × (α → α))}

lemma run_comm {f : α → α} {fs : List (α → α)} (h : ∀ g ∈ fs, ∀ a, g (f a) = f (g a)) (a : α) :
    run (f a) fs = f (run a fs) := by
  induction fs generalizing a with
  | nil => rfl
  | cons g gs ih =>
    rw [run_cons, run_cons, h g List.mem_cons_self, ih fun g hg => h g (List.mem_cons_of_mem _ hg)]

/-- The updates of one worker can be made before those of the others. -/
lemma run_without (h : Independent log) (i : Fin N) (a : α) :
    run a (log.map Prod.snd) = run (run a (made i log)) ((without i log).map Prod.snd) := by
  induction log generalizing a with
  | nil => rfl
  | cons c rest ih =>
    obtain ⟨j, f⟩ := c
    have hrest : Independent rest := fun c hc d hd =>
      h c (List.mem_cons_of_mem _ hc) d (List.mem_cons_of_mem _ hd)
    rw [List.map_cons, run_cons, ih hrest]
    by_cases hj : j = i
    · subst hj
      rw [made_cons_self, without_cons_self, run_cons]
    · -- the update waits until the worker has made all of its own
      have hwaits : run (f a) (made i rest) = f (run a (made i rest)) :=
        run_comm (fun g hg => h (i, g) (List.mem_cons_of_mem _ (mem_of_mem_made hg)) (j, f)
          List.mem_cons_self (Ne.symm hj)) a
      rw [made_cons_of_ne hj, without_cons_of_ne hj, List.map_cons, run_cons, hwaits]

/-- So the workers can make their updates in turn. -/
lemma run_sorted (h : Independent log) {order : List (Fin N)} (hnodup : order.Nodup)
    (hall : ∀ c ∈ log, c.1 ∈ order) (a : α) :
    run a (log.map Prod.snd) = run a (order.flatMap fun i => made i log) := by
  induction order generalizing log a with
  | nil =>
    have hnil : log = [] := List.eq_nil_iff_forall_not_mem.mpr fun c hc =>
      absurd (hall c hc) List.not_mem_nil
    rw [hnil]
    rfl
  | cons i order ih =>
    obtain ⟨hi, hnodup⟩ := List.nodup_cons.mp hnodup
    have hrest : Independent (without i log) := fun c hc d hd =>
      h c (List.mem_of_mem_filter hc) d (List.mem_of_mem_filter hd)
    have hmem : ∀ c ∈ without i log, c.1 ∈ order := by
      intro c hc
      obtain ⟨hlog, hne⟩ := List.mem_filter.mp hc
      exact (List.mem_cons.mp (hall c hlog)).resolve_left (of_decide_eq_true hne)
    have hmade : (order.flatMap fun j => made j (without i log)) =
        order.flatMap fun j => made j log :=
      List.flatMap_congr fun j hj => made_without (ne_of_mem_of_not_mem hj hi) log
    rw [run_without h i, ih hrest hnodup hmem, hmade, List.flatMap_cons, run_append]

end Sorted

/-! ### Teams -/

/-- Workers with what each has still to do, and with the handles that they have. -/
structure Team (N : ℕ) (α : Type u) where
  cells : Cells α
  first : Handle
  handle? : Fin N → Option Handle
  todo : Fin N → List (α → α)

/-- A step of a team. -/
inductive Action (N : ℕ) where
  /-- A worker is given a clone of the first handle, or of that of another worker. -/
  | clone (giver? : Option (Fin N)) (taker : Fin N)
  /-- A worker makes its next update. -/
  | call (i : Fin N)

namespace Team

/-- A value that is shared from now on, beside others; no handle to it is cloned yet. -/
def start (cells : Cells α) (a : α) (programs : Fin N → List (α → α)) : Team N α :=
  let (first, cells) := cells.new a
  ⟨cells, first, fun _ => none, programs⟩

def handleOf (s : Team N α) (giver? : Option (Fin N)) : Option Handle :=
  giver?.elim (some s.first) s.handle?

/-- A worker has a clone of a handle. -/
def give (s : Team N α) (taker : Fin N) (h : Handle) : Team N α :=
  { s with handle? := Function.update s.handle? taker (some h.clone) }

/-- A worker makes an update under its handle, and others are left to it. -/
def make (s : Team N α) (i : Fin N) (h : Handle) (f : α → α) (rest : List (α → α)) : Team N α :=
  { s with cells := s.cells.update h f, todo := Function.update s.todo i rest }

/-- One step. Nothing comes of it without a handle, or without an update that is left. -/
def turn (s : Team N α) : Action N → Team N α
  | .clone giver? taker =>
    match s.handleOf giver? with
    | some h => s.give taker h
    | none => s
  | .call i =>
    match s.handle? i, s.todo i with
    | some h, f :: rest => s.make i h f rest
    | _, _ => s

def run (s : Team N α) (actions : List (Action N)) : Team N α := actions.foldl turn s

/-- The update that a step makes, with the worker who makes it. -/
def call? (s : Team N α) : Action N → Option (Fin N × (α → α))
  | .clone .. => none
  | .call i =>
    match s.handle? i, s.todo i with
    | some _, f :: _ => some (i, f)
    | _, _ => none

/-- All updates of a run, in the order in which they are made. -/
def calls : Team N α → List (Action N) → List (Fin N × (α → α))
  | _, [] => []
  | s, x :: xs => (s.call? x).toList ++ (s.turn x).calls xs

/-- Every worker has made all of its updates. -/
def Done (s : Team N α) : Prop := ∀ i, s.todo i = []

lemma handle?_give (s : Team N α) (i : Fin N) (h : Handle) :
    (s.give i h).handle? = Function.update s.handle? i (some h) := rfl

lemma todo_make (s : Team N α) (i : Fin N) (h : Handle) (f : α → α) (rest : List (α → α)) :
    (s.make i h f rest).todo = Function.update s.todo i rest := rfl

lemma run_cons (s : Team N α) (x : Action N) (xs : List (Action N)) :
    s.run (x :: xs) = (s.turn x).run xs := rfl

lemma run_append (s : Team N α) (xs ys : List (Action N)) :
    s.run (xs ++ ys) = (s.run xs).run ys := List.foldl_append

lemma calls_append (s : Team N α) (xs ys : List (Action N)) :
    s.calls (xs ++ ys) = s.calls xs ++ (s.run xs).calls ys := by
  induction xs generalizing s with
  | nil => rfl
  | cons x xs ih => rw [List.cons_append, calls, ih, calls, run_cons, List.append_assoc]

/-! ### What a step keeps -/

/-- All handles are to the value that is shared, and it is what the updates have made of it. -/
structure InStep (cells : Cells α) (a : α) (programs : Fin N → List (α → α))
    (log : List (Fin N × (α → α))) (s : Team N α) : Prop where
  first : s.first = ⟨cells.length⟩
  handles (i : Fin N) (h : Handle) : s.handle? i = some h → h = s.first
  cells : s.cells = cells ++ [Shared.run a (log.map Prod.snd)]
  programs (i : Fin N) : made i log ++ s.todo i = programs i

variable {cells : Cells α} {a : α} {programs : Fin N → List (α → α)}
  {log : List (Fin N × (α → α))} {s : Team N α}

lemma update_length (cells : Cells α) (a : α) (f : α → α) :
    Cells.update (cells ++ [a]) ⟨cells.length⟩ f = cells ++ [f a] := by
  induction cells with
  | nil => rfl
  | cons b cells ih => exact congrArg (b :: ·) ih

lemma inStep_start (cells : Cells α) (a : α) (programs : Fin N → List (α → α)) :
    InStep cells a programs [] (start cells a programs) where
  first := rfl
  handles _ _ h := nomatch h
  cells := rfl
  programs _ := rfl

lemma InStep.handleOf (h : InStep cells a programs log s) {giver? : Option (Fin N)} {g : Handle}
    (hg : s.handleOf giver? = some g) : g = s.first := by
  cases giver? with
  | none => exact (Option.some.inj hg).symm
  | some giver => exact h.handles giver g hg

/-- A clone is a handle to the same value. -/
lemma InStep.give (h : InStep cells a programs log s) {g : Handle} (hg : g = s.first)
    (taker : Fin N) : InStep cells a programs log (s.give taker g) where
  first := h.first
  handles i k hk := by
    rw [handle?_give] at hk
    by_cases hi : i = taker
    · subst hi
      rw [Function.update_self] at hk
      rw [← Option.some.inj hk]
      exact hg
    · rw [Function.update_of_ne hi] at hk
      exact h.handles i k hk
  cells := h.cells
  programs := h.programs

/-- An update of one worker is made on the value of all. -/
lemma InStep.make (h : InStep cells a programs log s) {i : Fin N} {g : Handle} (hg : g = s.first)
    {f : α → α} {rest : List (α → α)} (hf : s.todo i = f :: rest) :
    InStep cells a programs (log ++ [(i, f)]) (s.make i g f rest) where
  first := h.first
  handles := h.handles
  cells := by
    have hcells : (s.make i g f rest).cells = s.cells.update g f := rfl
    rw [hcells, hg, h.first, h.cells, update_length, List.map_append, Shared.run_append]
    rfl
  programs j := by
    rw [todo_make, made_append, List.append_assoc]
    by_cases hj : i = j
    · subst hj
      rw [Function.update_self, made_cons_self, made_nil, ← h.programs i, hf]
      rfl
    · rw [Function.update_of_ne (Ne.symm hj), made_cons_of_ne hj, made_nil, ← h.programs j]
      rfl

/-- **One step** keeps a team in step. -/
lemma InStep.turn (h : InStep cells a programs log s) (x : Action N) :
    InStep cells a programs (log ++ (s.call? x).toList) (s.turn x) := by
  cases x with
  | clone giver? taker =>
    rw [call?, Option.toList_none, List.append_nil, Team.turn]
    split
    · rename_i hg
      exact h.give (h.handleOf hg) taker
    · exact h
  | call i =>
    rw [call?, Team.turn]
    split
    · rename_i hg hf
      exact h.make (h.handles i _ hg) hf
    · rw [Option.toList_none, List.append_nil]
      exact h

/-- **A run** keeps a team in step. -/
lemma InStep.run (h : InStep cells a programs log s) (actions : List (Action N)) :
    InStep cells a programs (log ++ s.calls actions) (s.run actions) := by
  induction actions generalizing log s with
  | nil =>
    rw [calls, List.append_nil]
    exact h
  | cons x xs ih =>
    rw [calls, ← List.append_assoc, run_cons]
    exact ih (h.turn x)

/-! ### Every merge is a run -/

/-- Workers that have handles can make their updates in any order. -/
lemma calls_of_merges (hh : ∀ i, (s.handle? i).isSome) (hlog : Merges s.todo log) :
    (s.run (log.map fun c => .call c.1)).Done ∧ s.calls (log.map fun c => .call c.1) = log := by
  induction log generalizing s with
  | nil => exact ⟨fun i => (hlog i).symm, rfl⟩
  | cons c rest ih =>
    obtain ⟨i, f⟩ := c
    obtain ⟨g, hg⟩ := Option.isSome_iff_exists.mp (hh i)
    have hf : s.todo i = f :: made i rest := by rw [← hlog i, made_cons_self]
    have hturn : s.turn (.call i) = s.make i g f (made i rest) := by
      simp only [turn, hg, hf]
    have hcall : s.call? (.call i) = some (i, f) := by
      simp only [call?, hg, hf]
    have hrest : Merges (s.turn (.call i)).todo rest := by
      intro j
      rw [hturn, todo_make]
      by_cases hj : i = j
      · subst hj
        rw [Function.update_self]
      · rw [Function.update_of_ne (Ne.symm hj), ← hlog j, made_cons_of_ne hj]
    have hh' : ∀ j, ((s.turn (.call i)).handle? j).isSome := by
      rw [hturn]
      exact hh
    obtain ⟨hdone, hcalls⟩ := ih hh' hrest
    refine ⟨hdone, ?_⟩
    rw [List.map_cons, calls, hcall, hcalls]
    rfl

/-- The first handle can be cloned for any workers. -/
lemma run_clones (takers : List (Fin N)) (s : Team N α) :
    let xs : List (Action N) := takers.map (.clone none)
    (s.run xs).todo = s.todo ∧ s.calls xs = [] ∧
      ∀ i, i ∈ takers ∨ (s.handle? i).isSome → ((s.run xs).handle? i).isSome := by
  induction takers generalizing s with
  | nil => exact ⟨rfl, rfl, fun i hi => hi.resolve_left List.not_mem_nil⟩
  | cons taker takers ih =>
    obtain ⟨htodo, hcalls, hhandle⟩ := ih (s.turn (.clone none taker))
    refine ⟨htodo, hcalls, fun i hi => hhandle i ?_⟩
    have hgive : (s.turn (.clone none taker)).handle? i =
        Function.update s.handle? taker (some s.first) i := rfl
    rw [hgive]
    by_cases hit : i = taker
    · subst hit
      rw [Function.update_self]
      exact .inr rfl
    · rw [Function.update_of_ne hit]
      rw [List.mem_cons] at hi
      exact hi.imp_left fun h => h.resolve_left hit

lemma exists_run (hlog : Merges s.todo log) :
    ∃ actions, (s.run actions).Done ∧ s.calls actions = log := by
  obtain ⟨htodo, hcalls, hhandle⟩ := run_clones (List.finRange N) s
  obtain ⟨hdone, hrest⟩ := calls_of_merges
    (fun i => hhandle i (.inl (List.mem_finRange i))) (htodo ▸ hlog)
  refine ⟨(List.finRange N).map (.clone none) ++ log.map fun c => .call c.1, ?_, ?_⟩
  · rwa [run_append]
  · rw [calls_append, hcalls, hrest, List.nil_append]

end Team

/-! ### Workers in turn -/

section InTurn

variable {workers : List (List (α → α))} {log : List (Fin workers.length × (α → α))}

lemma Merges.independent (h : Merges workers.get log)
    (hcomm : ∀ i j, i ≠ j → ∀ f ∈ workers.get i, ∀ g ∈ workers.get j, ∀ a, f (g a) = g (f a)) :
    Independent log := by
  intro c hc d hd hne
  have hf : c.2 ∈ workers.get c.1 := h c.1 ▸ mem_made hc
  have hg : d.2 ∈ workers.get d.1 := h d.1 ▸ mem_made hd
  exact hcomm c.1 d.1 hne c.2 hf d.2 hg

lemma Merges.run_inTurn (h : Merges workers.get log) (hi : Independent log) (a : α) :
    run a (log.map Prod.snd) = run a (inTurn workers) := by
  have hall : ((List.finRange workers.length).flatMap fun i => made i log) = inTurn workers := by
    rw [funext h, List.flatMap_def, List.map_get_finRange, inTurn]
  rw [run_sorted hi (List.nodup_finRange _) (fun c _ => List.mem_finRange c.1), hall]

end InTurn

/-! ### Adders -/

lemma add_comm (k l : ℕ) (n : Int64) : add k (add l n) = add l (add k n) := by
  rw [add, add, add, add, Int64.add_assoc, Int64.add_comm (Int64.ofNat l), Int64.add_assoc]

lemma run_replicate_add (times k : ℕ) (n : Int64) :
    run n (List.replicate times (add k)) = n + Int64.ofNat (times * k) := by
  induction times generalizing n with
  | zero => simp
  | succ times ih =>
    rw [List.replicate_succ, run_cons, ih, add, Int64.add_assoc, ← Int64.ofNat_add,
      Nat.succ_mul, Nat.add_comm k]

lemma run_adders (threads times : ℕ) (n : Int64) :
    run n (inTurn (adders threads times)) =
      n + Int64.ofNat (times * ∑ k ∈ Finset.range threads, k) := by
  induction threads with
  | zero => simp [adders, inTurn]
  | succ threads ih =>
    have hsplit : inTurn (adders (threads + 1) times) =
        inTurn (adders threads times) ++ List.replicate times (add threads) := by
      simp [inTurn, adders, List.range_succ]
    rw [hsplit, run_append, ih, run_replicate_add, Finset.sum_range_succ, Int64.add_assoc,
      ← Int64.ofNat_add, Nat.mul_add]

lemma times_sum_range (threads times : ℕ) :
    times * ∑ k ∈ Finset.range threads, k = times * threads * (threads - 1) / 2 := by
  rw [Finset.sum_range_id, Nat.mul_assoc,
    Nat.mul_div_assoc _ (Nat.even_mul_pred_self threads).two_dvd]

lemma adders_comm {threads times : ℕ} (i j : Fin (adders threads times).length) :
    ∀ f ∈ (adders threads times).get i, ∀ g ∈ (adders threads times).get j,
      ∀ a, f (g a) = g (f a) := by
  have hadd (i : Fin (adders threads times).length) (f : Int64 → Int64)
      (hf : f ∈ (adders threads times).get i) : ∃ k, f = add k := by
    obtain ⟨k, -, hk⟩ := List.mem_map.mp (List.get_mem (adders threads times) i)
    rw [← hk] at hf
    exact ⟨k, List.eq_of_mem_replicate hf⟩
  intro f hf g hg a
  obtain ⟨k, rfl⟩ := hadd i f hf
  obtain ⟨l, rfl⟩ := hadd j g hg
  exact add_comm k l a

/-! ### What comes of it -/

namespace Team

section Runs

variable (cells : Cells α) (a : α) (workers : List (List (α → α)))
  (actions : List (Action workers.length))

lemma inStep_run : InStep cells a workers.get ((start cells a workers.get).calls actions)
    ((start cells a workers.get).run actions) :=
  (inStep_start cells a workers.get).run actions

variable {cells a workers actions}

lemma merges_of_done (h : ((start cells a workers.get).run actions).Done) :
    Merges workers.get ((start cells a workers.get).calls actions) := by
  intro i
  rw [← (inStep_run cells a workers actions).programs i, h i, List.append_nil]

lemma cells_of_done (h : ((start cells a workers.get).run actions).Done)
    (hcomm : ∀ i j, i ≠ j → ∀ f ∈ workers.get i, ∀ g ∈ workers.get j, ∀ b, f (g b) = g (f b)) :
    ((start cells a workers.get).run actions).cells = cells ++ [Shared.run a (inTurn workers)] := by
  have hmerges := merges_of_done h
  rw [(inStep_run cells a workers actions).cells, hmerges.run_inTurn (hmerges.independent hcomm)]

end Runs

/-- **A shared value loses no update.** Let any number of workers have handles to one value, cloned
at any time, and let the order of their steps be any. Then the value is at any time what the updates
made so far give, one after the other; each worker's are a beginning of its own, in its order, and
other values are as they were. Once all are done the updates made are a merge of what the workers
had to do, and every merge is what some order of steps comes to. If updates of different workers
commute, then the value at the end is that of the workers one after the other, whatever the order;
so for workers `0`, `1`, … of which each adds its number equally often, it is a sum, modulo
`2 ^ 64`. -/
theorem cells_run :
    (∀ (α : Type u) (cells : Cells α) (a : α) (workers : List (List (α → α))),
      let s := start cells a workers.get
      (∀ actions,
        (s.run actions).cells = cells ++ [Shared.run a ((s.calls actions).map Prod.snd)] ∧
        (∀ i, made i (s.calls actions) ++ (s.run actions).todo i = workers.get i) ∧
        ((s.run actions).Done → Merges workers.get (s.calls actions))) ∧
      (∀ log, Merges workers.get log → ∃ actions, (s.run actions).Done ∧ s.calls actions = log) ∧
      ((∀ i j, i ≠ j → ∀ f ∈ workers.get i, ∀ g ∈ workers.get j, ∀ b, f (g b) = g (f b)) →
        ∀ actions, (s.run actions).Done →
          (s.run actions).cells = cells ++ [Shared.run a (inTurn workers)])) ∧
    ∀ (cells : Cells Int64) (a : Int64) (threads times : ℕ)
      (actions : List (Action (adders threads times).length)),
      let s := (start cells a (adders threads times).get).run actions
      s.Done → ∃ total, s.cells = cells ++ [total] ∧
        total.toInt = (a.toInt + (times * threads * (threads - 1) / 2 : ℕ)).bmod (2 ^ 64) := by
  refine ⟨fun α cells a workers => ?_, fun cells a threads times actions => ?_⟩
  · intro s
    refine ⟨fun actions => ?_, fun log hlog => exists_run hlog, fun hcomm actions hdone =>
      cells_of_done hdone hcomm⟩
    have hrun := inStep_run cells a workers actions
    exact ⟨hrun.cells, hrun.programs, merges_of_done⟩
  · intro s hdone
    have hcells : s.cells = cells ++ [Shared.run a (inTurn (adders threads times))] :=
      cells_of_done hdone fun i j _ => adders_comm i j
    refine ⟨_, hcells, ?_⟩
    have hsize : Int64.size = 2 ^ 64 := rfl
    rw [run_adders, times_sum_range, Int64.toInt_add, Int64.toInt_ofNat', hsize, Int.add_bmod_bmod]

/-- Updates that do not commute, of workers of whom one is given its clone by the other in the middle
of its work; and three adders from below zero, in an order that goes back and forth. -/
theorem cells_run_crossed :
    let workers : List (List (ℕ → ℕ)) := [[(· + 1), (2 * ·)], [(· + 10)]]
    let actions : List (Action workers.length) :=
      [.call 1, .clone none 0, .call 0, .clone (some 0) 1, .call 1, .call 0, .call 0]
    let s := (start [7] 0 workers.get).run actions
    let zero : Fin (adders 3 2).length := ⟨0, by decide⟩
    let one : Fin (adders 3 2).length := ⟨1, by decide⟩
    let two : Fin (adders 3 2).length := ⟨2, by decide⟩
    let adding := [.clone none two, .call two, .clone (some two) one, .clone (some one) zero,
      .call one, .call zero, .call two, .call zero, .call one]
    let t := (start [] (-1) (adders 3 2).get).run adding
    s.Done ∧ s.cells = [7, 22] ∧ t.Done ∧ ∃ total, t.cells = [total] ∧ total.toInt = 5 := by
  intro workers actions s zero one two adding t
  obtain ⟨hmerged, hadded⟩ := cells_run
  obtain ⟨hruns, -, -⟩ := hmerged ℕ [7] 0 workers
  have hs : s.Done
    | 0 => rfl
    | 1 => rfl
  have ht : t.Done
    | ⟨0, _⟩ => rfl
    | ⟨1, _⟩ => rfl
    | ⟨2, _⟩ => rfl
  exact ⟨hs, (hruns actions).1, ht, hadded [] (-1) 3 2 adding ht⟩

end Team

end TreeHaul.Shared
