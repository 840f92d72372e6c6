import Mathlib.Tactic.Lemma
import TreeHaul.Store.Cursor

/-!
What a cursor yields: the nodes ahead of it, chain by chain, and then nothing any more.
-/

universe u

namespace TreeHaul.Store.Cursor

variable {V : Type u}

/-- The nodes that a cursor has not yielded. -/
def ahead (c : Cursor V) : List (String × V) := c.chain ++ c.buckets.flatten

lemma advance_eq (chain : Chain V) (buckets : List (Chain V)) :
    (∃ n chain' buckets', advance chain buckets = (some n, chain', buckets') ∧
      chain ++ buckets.flatten = n :: (chain' ++ buckets'.flatten)) ∨
    (advance chain buckets = (none, [], []) ∧ chain ++ buckets.flatten = []) := by
  induction buckets generalizing chain with
  | nil =>
    cases chain with
    | nil => exact Or.inr ⟨rfl, rfl⟩
    | cons n rest => exact Or.inl ⟨n, rest, [], rfl, by simp⟩
  | cons b bs ih =>
    cases chain with
    | nil =>
      -- an empty chain is passed over
      rw [advance, List.nil_append, List.flatten_cons]
      exact ih b
    | cons n rest => exact Or.inl ⟨n, rest, b :: bs, rfl, by simp⟩

/-- One step yields the first node ahead, if there is one. -/
lemma next_spec (c : Cursor V) :
    (∃ n, c.next.1 = some n ∧ c.ahead = n :: c.next.2.ahead ∧
      c.next.2.remaining = c.remaining - 1) ∨
    (c.next.1 = none ∧ c.ahead = [] ∧ c.next.2.ahead = [] ∧
      c.next.2.remaining = c.remaining) := by
  rcases advance_eq c.chain c.buckets with ⟨n, chain, buckets, ha, hl⟩ | ⟨ha, hl⟩
  · have hn : c.next = (some n, ⟨chain, buckets, c.remaining - 1⟩) := by rw [next, ha]
    rw [hn]
    exact Or.inl ⟨n, rfl, hl, rfl⟩
  · have hn : c.next = (none, ⟨[], [], c.remaining⟩) := by rw [next, ha]
    rw [hn]
    exact Or.inr ⟨rfl, hl, rfl, rfl⟩

/-- All that a cursor still yields. -/
def drain (c : Cursor V) : List (String × V) :=
  match _h : c.next with
  | (none, _) => []
  | (some n, d) => n :: d.drain
termination_by c.ahead.length
decreasing_by
  rcases c.next_spec with ⟨m, -, ha, -⟩ | ⟨hn, -⟩
  · rw [ha, _h, List.length_cons]
    exact Nat.lt_succ_self _
  · rw [_h] at hn
    cases hn

lemma drain_eq_ahead (c : Cursor V) : c.drain = c.ahead := by
  induction hl : c.ahead.length using Nat.strongRecOn generalizing c with
  | ind k ih =>
    rw [drain]
    rcases c.next_spec with ⟨n, hn, ha, -⟩ | ⟨hn, ha, -⟩
    · split
      · rename_i h
        rw [h] at hn
        cases hn
      · rename_i m d h
        rw [h] at hn ha
        obtain rfl := Option.some.inj hn
        have hlt : d.ahead.length < k := by
          rw [← hl, ha, List.length_cons]
          exact Nat.lt_succ_self _
        rw [ha, ih _ hlt d rfl]
    · split
      · rw [ha]
      · rename_i h
        rw [h] at hn
        cases hn

/-- **A cursor at the start yields the pairs of the table in iteration order.** -/
theorem drain_cursor (t : Table V) : t.cursor.drain = t.toList := drain_eq_ahead t.cursor

end TreeHaul.Store.Cursor
