import TreeHaul.Proofs.Store.Representation

/-!
A cursor from the start of a table to the end and beyond. It yields each node once, chain by chain,
and promises before every step exactly what is left; after the last node it stays at the end. A step
is a loop over buckets, and ends after at most one turn more than there are buckets left.
-/

universe u

namespace TreeHaul.Store

variable {V : Type u}

namespace Cursor

/-! ### The loop in a step -/

/-- What one turn of the loop comes to. -/
inductive Turn (V : Type u) where
  | answer (node? : Option (String × V)) (c : Cursor V)
  | onward (c : Cursor V)

/-- One turn: the node at hand is the answer; where there is none, the next bucket is taken up, and
without a next bucket there is nothing to answer. -/
def turn (c : Cursor V) : Turn V :=
  match c.chain, c.buckets with
  | node :: rest, _ => .answer (some node) { c with chain := rest, remaining := c.remaining - 1 }
  | [], bucket :: buckets => .onward { c with chain := bucket, buckets := buckets }
  | [], [] => .answer none c

/-- Takes turns up to the answer, if so many are enough. -/
def turns : ℕ → Cursor V → Option (Option (String × V) × Cursor V)
  | 0, _ => none
  | n + 1, c =>
    match c.turn with
    | .answer node? d => some (node?, d)
    | .onward d => turns n d

/-- The loop comes to the answer of the step, one turn for each bucket that is left at the most. -/
lemma turns_eq_next {c : Cursor V} {n : ℕ} (hn : c.buckets.length < n) :
    c.turns n = some c.next := by
  obtain ⟨chain, buckets, remaining⟩ := c
  induction buckets generalizing chain n with
  | nil =>
    obtain ⟨k, rfl⟩ := Nat.exists_eq_add_one_of_ne_zero (Nat.ne_of_gt hn)
    cases chain <;> rfl
  | cons bucket buckets ih =>
    rw [List.length_cons] at hn
    obtain ⟨k, rfl⟩ := Nat.exists_eq_add_one_of_ne_zero (Nat.ne_of_gt (Nat.zero_lt_of_lt hn))
    cases chain with
    | nil => exact ih bucket (Nat.lt_of_succ_lt_succ hn)
    | cons node rest => rfl

lemma length_advance_le (chain : Chain V) (buckets : List (Chain V)) :
    (advance chain buckets).2.2.length ≤ buckets.length := by
  induction buckets generalizing chain with
  | nil => cases chain <;> exact Nat.le_refl _
  | cons bucket buckets ih =>
    cases chain with
    | nil => exact Nat.le_trans (ih bucket) (Nat.le_succ _)
    | cons node rest => exact Nat.le_refl _

lemma length_buckets_next_le (c : Cursor V) : c.next.2.buckets.length ≤ c.buckets.length := by
  have hle := length_advance_le c.chain c.buckets
  rw [next]
  split <;> simpa [*] using hle

/-! ### Any number of steps -/

lemma skip_succ (n : ℕ) (c : Cursor V) : c.skip (n + 1) = (c.skip n).next.2 :=
  Function.iterate_succ_apply' ..

lemma length_buckets_skip_le (n : ℕ) (c : Cursor V) :
    (c.skip n).buckets.length ≤ c.buckets.length := by
  induction n with
  | zero => exact Nat.le_refl _
  | succ n ih =>
    rw [skip_succ]
    exact Nat.le_trans (length_buckets_next_le _) ih

/-- A step is one on the list of what is ahead. -/
lemma next_ahead (c : Cursor V) : c.next.1 = c.ahead.head? ∧ c.next.2.ahead = c.ahead.tail := by
  rcases c.next_spec with ⟨n, hn, ha, -⟩ | ⟨hn, ha, ha', -⟩
  · rw [hn, ha]
    exact ⟨rfl, rfl⟩
  · rw [hn, ha, ha']
    exact ⟨rfl, rfl⟩

lemma ahead_skip (n : ℕ) (c : Cursor V) : (c.skip n).ahead = c.ahead.drop n := by
  induction n with
  | zero => rfl
  | succ n ih => rw [skip_succ, (next_ahead _).2, ih, List.tail_drop]

lemma next_skip (n : ℕ) (c : Cursor V) : (c.skip n).next.1 = c.ahead[n]? := by
  rw [(next_ahead _).1, ahead_skip, List.head?_drop]

lemma Exact.remaining_skip {c : Cursor V} (h : c.Exact) (n : ℕ) :
    (c.skip n).remaining = c.remaining - n := by
  have hn : (c.skip n).remaining = (c.skip n).ahead.length := h.skip n
  have h0 : c.remaining = c.ahead.length := h
  rw [hn, h0, ahead_skip, List.length_drop]

end Cursor

namespace Table

/-! ### A whole traversal -/

/-- How a cursor goes from the start of a table over these nodes. -/
structure Traverses (s : Table V) (nodes : List (String × V)) : Prop where
  /-- Step by step it yields the nodes in their order. -/
  yields : ∀ i, (s.cursor.skip i).next.1 = nodes[i]?
  /-- Before each step it promises what is left. -/
  promises : ∀ i ≤ s.size, (s.cursor.skip i).sizeHint = (s.size - i, some (s.size - i))
  /-- After the last node it yields nothing and promises nothing, however often it is asked. -/
  ends : ∀ i, s.size ≤ i →
    (s.cursor.skip i).next.1 = none ∧ (s.cursor.skip i).sizeHint = (0, some 0)
  /-- A step that yields a node takes one off a count that is not zero. -/
  counts : ∀ i < s.size, (s.cursor.skip (i + 1)).remaining + 1 = (s.cursor.skip i).remaining
  /-- The loop in a step ends, after a turn for each bucket at the most and one more. -/
  halts : ∀ i, (s.cursor.skip i).turns (s.bucketCount + 1) = some (s.cursor.skip i).next

lemma Sound.traverses {s : Table V} (h : Sound s) : Traverses s s.toList := by
  have hremaining (i : ℕ) : (s.cursor.skip i).remaining = s.size - i :=
    h.exact_cursor.remaining_skip i
  have hhint (i : ℕ) : (s.cursor.skip i).sizeHint = (s.size - i, some (s.size - i)) := by
    rw [Cursor.sizeHint, hremaining]
  have hyields (i : ℕ) : (s.cursor.skip i).next.1 = s.toList[i]? := Cursor.next_skip i s.cursor
  refine ⟨hyields, fun i _ => hhint i, fun i hi => ⟨?_, ?_⟩, fun i hi => ?_, fun i => ?_⟩
  · rw [hyields, List.getElem?_eq_none (h.counted ▸ hi)]
  · rw [hhint, Nat.sub_eq_zero_of_le hi]
  · rw [hremaining, hremaining]
    omega
  · refine Cursor.turns_eq_next (Nat.lt_succ_of_le ?_)
    exact Cursor.length_buckets_skip_le i s.cursor

/-- **A traversal is complete and says so.** Of a table that was created, whatever was done to it, a
cursor yields the concatenation of all chains in the order of the buckets, in which there are as many
nodes as the size says and each pair of the table is found once; it promises before every step
exactly what is left, stays at the end for good, and every step of it ends. -/
theorem traversal_run {hash : KeyHash} {count : ℕ} {t : Table V} (h : create hash count = .ok t)
    (history : List (Command V)) :
    let s := t.run history
    let nodes := s.buckets.toList.flatten
    Traverses s nodes ∧ nodes.length = s.size ∧ (nodes.map Prod.fst).Nodup ∧
      ∀ (key : String) (v : V), (key, v) ∈ nodes ↔ s.find? key = some v := by
  intro s nodes
  have hs : Sound s := (sound_create h).1.run history
  exact ⟨hs.traverses, hs.counted.symm, hs.nodup_keys, fun _ _ => hs.find?_eq_some_iff.symm⟩

/-- Two nodes between runs of empty buckets, and a step beyond them. -/
theorem traversal_run_sparse :
    let t : Table ℕ := ⟨byteSum, #[[], [], [], [], [], []], 0⟩
    let s := t.run [.insert "a" 1, .insert "b" 2, .insert "d" 4, .remove "b"]
    create byteSum 6 = .ok t ∧ Traverses s [("a", 1), ("d", 4)] ∧
      s.buckets = #[[], [("a", 1)], [], [], [("d", 4)], []] := by
  intro t s
  have h : create byteSum 6 = .ok t := rfl
  have hbuckets : s.buckets = #[[], [("a", 1)], [], [], [("d", 4)], []] := by decide +kernel
  obtain ⟨htraverses, -⟩ :=
    traversal_run h [.insert "a" 1, .insert "b" 2, .insert "d" 4, .remove "b"]
  -- of the table only its buckets matter from here on
  have hs : t.run [.insert "a" 1, .insert "b" 2, .insert "d" 4, .remove "b"] = s := rfl
  rw [hs] at htraverses
  clear_value s
  rw [hbuckets] at htraverses
  exact ⟨h, htraverses, hbuckets⟩

end Table

end TreeHaul.Store
