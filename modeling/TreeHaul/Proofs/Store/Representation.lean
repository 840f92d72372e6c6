import Mathlib.Logic.Function.Iterate
import TreeHaul.Proofs.Store.Invariant
import TreeHaul.Proofs.Store.Iteration

/-!
What the invariant says of a table as a whole, and what it rules out. No operation looks for a
bucket that is not there or divides by zero, also in the middle of a resize, and neither the size
of a table nor the count of a cursor is ever taken below zero.
-/

universe u

namespace TreeHaul.Store

variable {V : Type u}

/-! ### The count of a cursor -/

namespace Cursor

/-- The count is the number of nodes that the cursor has not yielded. -/
def Exact (c : Cursor V) : Prop := c.remaining = c.ahead.length

/-- A cursor after so many steps. -/
def skip (n : ℕ) (c : Cursor V) : Cursor V := (fun c => c.next.2)^[n] c

/-- A step that yields a node counts it, and does so without going below zero. -/
lemma Exact.remaining_next {c : Cursor V} (h : c.Exact) {node : String × V}
    (hn : c.next.1 = some node) : c.next.2.remaining + 1 = c.remaining := by
  unfold Exact at h
  rcases c.next_spec with ⟨m, -, ha, hr⟩ | ⟨hnone, -⟩
  · rw [ha, List.length_cons] at h
    omega
  · rw [hnone] at hn
    cases hn

lemma Exact.next {c : Cursor V} (h : c.Exact) : c.next.2.Exact := by
  unfold Exact at h ⊢
  rcases c.next_spec with ⟨m, -, ha, hr⟩ | ⟨-, ha, ha', hr⟩
  · rw [ha, List.length_cons] at h
    omega
  · rw [ha', hr, h, ha]

lemma Exact.skip {c : Cursor V} (h : c.Exact) (n : ℕ) : (c.skip n).Exact := by
  induction n with
  | zero => exact h
  | succ n ih =>
    have hs : c.skip (n + 1) = (c.skip n).next.2 := Function.iterate_succ_apply' ..
    rw [hs]
    exact ih.next

end Cursor

namespace Table

lemma Sound.exact_cursor {t : Table V} (h : Sound t) : t.cursor.Exact := h.counted

/-! ### The table as a whole -/

/-- There is a bucket, every node is in the bucket that its hash selects, no two nodes have one key,
and the size is the number of nodes. -/
structure Regular (t : Table V) : Prop where
  nonempty : t.buckets ≠ #[]
  placed : ∀ (i : ℕ) (c : Chain V), t.buckets[i]? = some c →
    ∀ n ∈ c, (t.hash n.1).toNat % t.bucketCount = i
  unique : t.keys.Nodup
  counted : t.size = t.buckets.toList.flatten.length

/-- The steps that could fail in a table that is not regular. -/
structure Safe (t : Table V) : Prop where
  divisor : t.bucketCount ≠ 0
  /-- The bucket of a key is there. -/
  indexed : ∀ key, t.slot key < t.buckets.size
  /-- It is there among the buckets of a resize, whatever was relinked before. -/
  relinked : ∀ (count : ℕ) (fresh : Array (Chain V)), emptyBuckets V count = .ok fresh →
    count ≠ 0 ∧ ∀ (nodes : List (String × V)) (key : String),
      slotOf t.hash key count < (nodes.foldl (relink t.hash) fresh).size
  /-- A removal takes one off a size that is not zero. -/
  removed : ∀ (key : String) (v : V), (t.remove key).1 = .ok v →
    (t.remove key).2.size + 1 = t.size
  /-- So does a cursor, wherever it stands. -/
  stepped : ∀ (n : ℕ) (node : String × V), (t.cursor.skip n).next.1 = some node →
    (t.cursor.skip n).next.2.remaining + 1 = (t.cursor.skip n).remaining

lemma Sound.regular {t : Table V} (h : Sound t) : Regular t where
  nonempty := Array.size_pos_iff.mp h.pos
  placed _ _ hc n hn := h.placed hc n.1 (Chain.mem_keys_of_mem hn)
  unique := h.nodup_keys
  counted := h.counted

lemma Sound.size_remove {t : Table V} (h : Sound t) {key : String} {v : V}
    (hr : (t.remove key).1 = .ok v) : (t.remove key).2.size + 1 = t.size := by
  rw [remove_eq] at hr ⊢
  cases hf : t.find? key with
  | none =>
    rw [hf] at hr
    cases hr
  | some w =>
    -- a table in which a key is found has a node
    have hmem : (key, w) ∈ t.toList := h.find?_eq_some_iff.mp hf
    have hpos : 0 < t.size := h.counted ▸ List.length_pos_of_mem hmem
    change t.size - 1 + 1 = t.size
    omega

lemma Sound.safe {t : Table V} (h : Sound t) : Safe t where
  divisor := Nat.ne_of_gt h.pos
  indexed := slot_lt h.pos
  relinked count fresh hf := by
    obtain ⟨hpos, rfl⟩ := pos_of_emptyBuckets hf
    refine ⟨Nat.ne_of_gt hpos, fun nodes key => ?_⟩
    rw [size_foldl_relink, Array.size_replicate]
    exact Nat.mod_lt _ hpos
  removed _ _ hr := h.size_remove hr
  stepped n _ hn := (h.exact_cursor.skip n).remaining_next hn

/-! ### Histories -/

lemma hash_perform (t : Table V) (c : Command V) : (t.perform c).2.hash = t.hash := by
  cases c with
  | insert key value => simp only [perform, insert]; split <;> rfl
  | modify key f => simp only [perform, modify?]; split <;> rfl
  | update key value => simp only [perform, update]; split <;> rfl
  | updateWith key f => simp only [perform, updateWith]; split <;> rfl
  | remove key => simp only [perform, remove_eq]; split <;> rfl
  | resize count => simp only [perform, resize]; split <;> rfl
  | accumulate plus key delta => simp only [perform, accumulate]; split <;> rfl
  | find _ | contains _ | clear | size | isEmpty => rfl

/-- A table spreads its keys with one hash all along. -/
lemma hash_run (t : Table V) (history : List (Command V)) : (t.run history).hash = t.hash := by
  induction history generalizing t with
  | nil => rfl
  | cons c cs ih => rw [run_cons, ih, hash_perform]

/-- **Every table is regular, and safe.** Whatever was done to it since it was created, its nodes
are where its hash puts them, each key is there once and the size counts them; so no step of it
leaves the buckets or counts below zero. -/
theorem regular_run {hash : KeyHash} {count : ℕ} {t : Table V} (h : create hash count = .ok t)
    (history : List (Command V)) :
    (t.run history).hash = hash ∧ Regular (t.run history) ∧ Safe (t.run history) := by
  obtain ⟨hs, -⟩ := sound_create h
  have hrun : Sound (t.run history) := hs.run history
  have hhash : t.hash = hash := by
    rw [create] at h
    cases hb : emptyBuckets V count with
    | error e =>
      rw [hb] at h
      cases h
    | ok b =>
      rw [hb] at h
      rw [← Except.ok.inj h]
  exact ⟨(hash_run t history).trans hhash, hrun.regular, hrun.safe⟩

/-- Keys that all collide, through a resize, a removal from within a chain and a clean start. -/
theorem regular_run_colliding :
    let t : Table ℕ := ⟨fun _ => 7, #[[], [], []], 0⟩
    let history : List (Command ℕ) := [.insert "lost" 0, .clear, .insert "a" 1, .insert "b" 2,
      .resize 5, .accumulate (· + ·) "c" 3, .remove "b", .resize 0, .insert "a" 9]
    create (fun _ => 7) 3 = .ok t ∧
      (t.run history).buckets = #[[], [], [("c", 3), ("a", 1)], [], []] ∧
      Regular (t.run history) ∧ Safe (t.run history) := by
  intro t history
  have h : create (fun _ => 7) 3 = .ok t := rfl
  obtain ⟨-, hregular, hsafe⟩ := regular_run h history
  exact ⟨h, by decide +kernel, hregular, hsafe⟩

end Table

end TreeHaul.Store
