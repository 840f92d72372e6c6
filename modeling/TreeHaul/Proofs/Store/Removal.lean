import Mathlib.Logic.Function.Iterate
import TreeHaul.Proofs.Store.Chains
import TreeHaul.Store.Table

/-!
The two walks of a removal, turn by turn. The first counts the nodes before the one with the key, the
second makes that many steps from the head and unlinks the node where it stands. It goes over what
the first has gone over, so it neither leaves the chain nor stands at its end: the ways out that are
there for those two cases are never taken.
-/

universe u

namespace TreeHaul.Store

variable {V : Type u}

/-- Where a removal can find that there is no node. -/
inductive Gap where
  /-- The walk that counts came to the end of the chain. -/
  | counting
  /-- The second walk came there before it had made its steps. -/
  | stepping
  /-- The second walk made its steps and stands there. -/
  | unlinking
  deriving DecidableEq

/-- How far a removal has come. -/
inductive Removal (V : Type u) where
  /-- So many nodes are counted, and this is what follows them. -/
  | counting (count : ℕ) (link : Chain V)
  /-- So many steps are to be made, from here. -/
  | stepping (left : ℕ) (before link : Chain V)
  | missing (gap : Gap)
  /-- The payload of the node, and the chain without it. -/
  | unlinked (value : V) (chain : Chain V)

namespace Removal

/-- One turn of the loop that the removal is in; what has ended stays as it is. -/
def turn (key : String) (chain : Chain V) : Removal V → Removal V
  | counting _ [] => missing .counting
  | counting i (node :: rest) =>
    if node.1 = key then stepping i [] chain else counting (i + 1) rest
  | stepping (_ + 1) _ [] => missing .stepping
  | stepping (n + 1) before (node :: rest) => stepping n (before ++ [node]) rest
  | stepping 0 _ [] => missing .unlinking
  | stepping 0 before (node :: rest) => unlinked node.2 (before ++ rest)
  | missing gap => missing gap
  | unlinked value c => unlinked value c

/-- A removal of a key from a chain after so many turns. -/
def after (key : String) (chain : Chain V) (n : ℕ) : Removal V :=
  (turn key chain)^[n] (counting 0 chain)

variable {key : String} {chain : Chain V}

lemma after_succ (n : ℕ) : after key chain (n + 1) = turn key chain (after key chain n) :=
  Function.iterate_succ_apply' ..

/-! ### What a turn keeps -/

/-- What is known of the chain at each point of a removal: there is a node to go to. -/
inductive OnCourse (key : String) (chain : Chain V) : Removal V → Prop
  | counting {before link : Chain V} : chain = before ++ link → key ∉ before.keys →
    OnCourse key chain (.counting before.length link)
  | stepping {before ahead rest : Chain V} {v : V} :
    chain = before ++ (ahead ++ (key, v) :: rest) →
    OnCourse key chain (.stepping ahead.length before (ahead ++ (key, v) :: rest))
  | missing : key ∉ chain.keys → OnCourse key chain (.missing .counting)
  | unlinked {before rest : Chain V} {v : V} : chain = before ++ (key, v) :: rest →
    OnCourse key chain (.unlinked v (before ++ rest))

/-- **One turn** keeps a removal on its course. -/
lemma OnCourse.turn {r : Removal V} (h : OnCourse key chain r) :
    OnCourse key chain (r.turn key chain) := by
  cases h with
  | counting hchain hbefore =>
    rename_i before link
    cases link with
    | nil =>
      rw [List.append_nil] at hchain
      exact .missing (hchain ▸ hbefore)
    | cons node rest =>
      rw [Removal.turn]
      split
      · -- what was counted lies ahead of the second walk
        rename_i hnode
        subst hnode hchain
        have hahead : before ++ node :: rest = [] ++ (before ++ (node.1, node.2) :: rest) := rfl
        exact .stepping hahead
      · rename_i hnode
        have hpassed : key ∉ Chain.keys (before ++ [node]) := by
          rw [Chain.keys_append, List.mem_append, not_or]
          exact ⟨hbefore, by simpa using Ne.symm hnode⟩
        have hlength : before.length + 1 = (before ++ [node]).length := by simp
        rw [hlength]
        exact .counting (by rw [hchain, List.append_assoc]; rfl) hpassed
  | stepping hchain =>
    rename_i before ahead rest v
    cases ahead with
    | nil => exact .unlinked hchain
    | cons node ahead => exact .stepping (by rw [hchain, List.append_assoc]; rfl)
  | missing hkey => exact .missing hkey
  | unlinked hchain => exact .unlinked hchain

/-- **A removal** is on its course at any time. -/
lemma onCourse_after (n : ℕ) : OnCourse key chain (after key chain n) := by
  induction n with
  | zero =>
    have hstart : chain = [] ++ chain := rfl
    exact .counting hstart List.not_mem_nil
  | succ n ih =>
    rw [after_succ]
    exact ih.turn

/-! ### The walks -/

/-- The first walk counts each node before the one with the key. -/
lemma iterate_counting {before : Chain V} (h : key ∉ before.keys) (i : ℕ) (link : Chain V) :
    (turn key chain)^[before.length] (counting i (before ++ link)) =
      counting (i + before.length) link := by
  induction before generalizing i with
  | nil => rfl
  | cons node before ih =>
    rw [Chain.keys_cons, List.mem_cons, not_or] at h
    have hturn : turn key chain (counting i (node :: (before ++ link))) =
        counting (i + 1) (before ++ link) := if_neg (Ne.symm h.1)
    rw [List.length_cons, Function.iterate_succ_apply, List.cons_append, hturn, ih h.2,
      Nat.add_assoc, Nat.add_comm 1]

/-- The second walk goes over as many nodes as it makes steps. -/
lemma iterate_stepping (ahead before link : Chain V) :
    (turn key chain)^[ahead.length] (stepping ahead.length before (ahead ++ link)) =
      stepping 0 (before ++ ahead) link := by
  induction ahead generalizing before with
  | nil => rw [List.append_nil]; rfl
  | cons node ahead ih =>
    have hturn : turn key chain (stepping (ahead.length + 1) before (node :: (ahead ++ link))) =
        stepping ahead.length (before ++ [node]) (ahead ++ link) := rfl
    rw [List.length_cons, Function.iterate_succ_apply, List.cons_append, hturn, ih,
      List.append_assoc]
    rfl

lemma after_counting {before link : Chain V} (hchain : chain = before ++ link)
    (hbefore : key ∉ before.keys) :
    after key chain before.length = counting before.length link := by
  have hstart : counting 0 chain = counting 0 (before ++ link) := by rw [hchain]
  rw [after, hstart, iterate_counting hbefore, Nat.zero_add]

lemma after_of_notMem (h : key ∉ chain.keys) :
    after key chain (chain.length + 1) = missing .counting := by
  rw [after_succ, after_counting (List.append_nil _).symm h]
  rfl

/-- The turns of a removal that finds its node. -/
lemma after_of_split {before rest : Chain V} {v : V} (hchain : chain = before ++ (key, v) :: rest)
    (hbefore : key ∉ before.keys) :
    after key chain (before.length + 1) = stepping before.length [] chain ∧
    after key chain (2 * before.length + 1) = stepping 0 before ((key, v) :: rest) ∧
    after key chain (2 * before.length + 2) = unlinked v (before ++ rest) := by
  have hfound : after key chain (before.length + 1) = stepping before.length [] chain := by
    rw [after_succ, after_counting hchain hbefore]
    exact if_pos rfl
  have hstand : after key chain (2 * before.length + 1) = stepping 0 before ((key, v) :: rest) := by
    have hturns : 2 * before.length + 1 = before.length + (before.length + 1) := by omega
    have hlink : stepping before.length [] chain =
        stepping before.length [] (before ++ (key, v) :: rest) := by rw [hchain]
    rw [hturns, after, Function.iterate_add_apply, ← after, hfound, hlink, iterate_stepping,
      List.nil_append]
  refine ⟨hfound, hstand, ?_⟩
  rw [after_succ, hstand]
  rfl

end Removal

/-! ### The walks as they are run -/

namespace Chain

/-- A key that is in a chain is there for a first time. -/
lemma exists_first {key : String} {c : Chain V} (h : key ∈ c.keys) :
    ∃ (before : Chain V) (v : V) (rest : Chain V),
      c = before ++ (key, v) :: rest ∧ key ∉ before.keys := by
  obtain ⟨passed, left, hkeys, hpassed⟩ := List.eq_append_cons_of_mem h
  obtain ⟨before, link, rfl, rfl, hlink⟩ := List.map_eq_append_iff.mp hkeys
  obtain ⟨⟨k, v⟩, rest, rfl, rfl, -⟩ := List.map_eq_cons_iff.mp hlink
  exact ⟨before, v, rest, rfl, hpassed⟩

lemma position?_of_split {key : String} {before : Chain V} (h : key ∉ before.keys) (v : V)
    (rest : Chain V) : position? key (before ++ (key, v) :: rest) = some before.length := by
  induction before with
  | nil => exact if_pos rfl
  | cons node before ih =>
    rw [keys_cons, List.mem_cons, not_or] at h
    rw [List.cons_append, position?, if_neg (Ne.symm h.1), ih h.2]
    rfl

lemma unlink?_of_split (before : Chain V) (key : String) (v : V) (rest : Chain V) :
    unlink? before.length (before ++ (key, v) :: rest) = some (v, before ++ rest) := by
  induction before with
  | nil => rfl
  | cons node before ih =>
    rw [List.length_cons, List.cons_append, unlink?, ih]
    rfl

end Chain

namespace Table

/-- **The two walks of a removal agree**, whatever the table and the key are. Of the three ways to
find no node, the two after the first walk are never taken. Where the key is not in its chain, the
first walk comes to the end of it, and the table stays. Where it is, the first walk stops at its
first node, the second makes as many steps as nodes were counted and stands at that very node, and
that node is unlinked: the nodes before it and after it stay, in their order, and no other chain is
touched. -/
theorem walks_agree (t : Table V) (key : String) :
    let chain := t.chainOf key
    let state := Removal.after key chain
    (∀ n, state n ≠ .missing .stepping ∧ state n ≠ .missing .unlinking) ∧
    (key ∉ chain.keys ∧ state (chain.length + 1) = .missing .counting ∧
        t.remove key = (.error (.notFound key), t) ∨
      ∃ (before : Chain V) (v : V) (rest : Chain V),
        chain = before ++ (key, v) :: rest ∧ key ∉ before.keys ∧
        state before.length = .counting before.length ((key, v) :: rest) ∧
        state (before.length + 1) = .stepping before.length [] chain ∧
        state (2 * before.length + 1) = .stepping 0 before ((key, v) :: rest) ∧
        state (2 * before.length + 2) = .unlinked v (before ++ rest) ∧
        t.remove key = (.ok v, { t with
          buckets := t.buckets.modify (t.slot key) fun _ => before ++ rest, size := t.size - 1 })) := by
  intro chain state
  refine ⟨fun n => ?_, ?_⟩
  · have hcourse : Removal.OnCourse key chain (state n) := Removal.onCourse_after n
    refine ⟨fun heq => ?_, fun heq => ?_⟩ <;>
      · rw [heq] at hcourse
        cases hcourse
  by_cases hkey : key ∈ chain.keys
  · obtain ⟨before, v, rest, hchain, hbefore⟩ := Chain.exists_first hkey
    obtain ⟨hfound, hstand, hend⟩ := Removal.after_of_split hchain hbefore
    refine .inr ⟨before, v, rest, hchain, hbefore, Removal.after_counting hchain hbefore, hfound,
      hstand, hend, ?_⟩
    have hposition : (t.chainOf key).position? key = some before.length := by
      rw [← Chain.position?_of_split hbefore v rest, ← hchain]
    have hunlink : (t.chainOf key).unlink? before.length = some (v, before ++ rest) := by
      rw [← Chain.unlink?_of_split before key v rest, ← hchain]
    simp only [remove, hposition, hunlink]
  · refine .inl ⟨hkey, Removal.after_of_notMem hkey, ?_⟩
    have hposition : (t.chainOf key).position? key = none := Chain.position?_eq_none_iff.mpr hkey
    simp only [remove, hposition]

end Table

end TreeHaul.Store
