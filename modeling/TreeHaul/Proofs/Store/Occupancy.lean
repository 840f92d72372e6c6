import Mathlib.Algebra.Order.BigOperators.Group.Finset
import Mathlib.Data.Nat.Count
import TreeHaul.Proofs.Store.Representation
import TreeHaul.Proofs.Store.Resizing
import TreeHaul.Store.Shape

/-!
What the shape of a table says of its keys. The walk over the chains counts nodes; since each key is
in one node, in the bucket of its hash, it counts how many keys the hash sends to each bucket. So
the shape can be told from the keys and the hash alone, and a pigeonhole argument bounds the keys by
the buckets that are in use.
-/

universe u

namespace TreeHaul.Store

open Finset

variable {V : Type u}

/-! ### The walk -/

/-- The walk counts the empty chains, and keeps the greatest length. -/
lemma foldl_measureChain (lengths : List ℕ) (acc : ℕ × ℕ) :
    lengths.foldl measureChain acc =
      (acc.1 + lengths.count 0, lengths.foldl max acc.2) := by
  induction lengths generalizing acc with
  | nil => rfl
  | cons n rest ih =>
    rw [List.foldl_cons, ih, List.foldl_cons, measureChain]
    by_cases hn : n = 0
    · subst hn
      rw [List.count_cons_self]
      simp only [if_true]
      rw [Nat.add_assoc, Nat.add_comm 1]
    · rw [List.count_cons_of_ne hn]
      simp only [if_neg hn]

/-- The greatest length is that of one of the chains, if there are any. -/
lemma isGreatest_foldl_max {f : ℕ → ℕ} {n : ℕ} (hn : 0 < n) :
    IsGreatest (f '' {j | j < n}) (((List.range n).map f).foldl max 0) := by
  have hsome : ((List.range n).map f).max? = some (((List.range n).map f).foldl max 0) := by
    cases hl : (List.range n).map f with
    | nil =>
      rw [List.map_eq_nil_iff, List.range_eq_nil] at hl
      exact absurd hl (Nat.ne_of_gt hn)
    | cons a rest => rw [List.max?_cons', List.foldl_cons, Nat.zero_max]
  obtain ⟨hmem, hle⟩ := List.max?_eq_some_iff.mp hsome
  refine ⟨?_, ?_⟩
  · obtain ⟨j, hj, heq⟩ := List.mem_map.mp hmem
    exact ⟨j, List.mem_range.mp hj, heq⟩
  · rintro _ ⟨j, hj, rfl⟩
    exact hle _ (List.mem_map_of_mem (List.mem_range.mpr hj))

namespace Table

/-! ### Keys by their buckets -/

/-- The keys that the hash sends to one bucket. -/
def residents (t : Table V) (j : ℕ) : Finset String :=
  {k ∈ t.keys.toFinset | (t.hash k).toNat % t.bucketCount = j}

/-- The buckets that the hash sends no key to. -/
def vacant (t : Table V) : Finset ℕ :=
  {j ∈ range t.bucketCount | ∀ k ∈ t.keys, (t.hash k).toNat % t.bucketCount ≠ j}

/-- The buckets that the hash sends a key to. -/
def occupied (t : Table V) : Finset ℕ := t.keys.toFinset.image t.slot

variable {t : Table V}

lemma residents_eq_empty_iff {j : ℕ} :
    t.residents j = ∅ ↔ ∀ k ∈ t.keys, (t.hash k).toNat % t.bucketCount ≠ j := by
  rw [residents, filter_eq_empty_iff]
  exact forall_congr' fun k => by rw [List.mem_toFinset]

/-- A bucket has a node for each key that belongs there. -/
lemma Sound.length_bucket (h : Sound t) {j : ℕ} (hj : j < t.buckets.toList.length) :
    t.buckets.toList[j].length = #(t.residents j) := by
  have hbucket : t.buckets.toList[j] = t.toList.filter fun n => t.slot n.1 = j :=
    (filter_flatten h.numbered hj).symm
  have hkeys : (t.toList.filter fun n => t.slot n.1 = j).map Prod.fst =
      t.keys.filter fun k => t.slot k = j := by
    rw [keys, List.filter_map]
    rfl
  have hset : t.residents j = (t.keys.filter fun k => t.slot k = j).toFinset := by
    rw [List.toFinset_filter, residents]
    refine filter_congr fun k _ => ?_
    rw [decide_eq_true_iff]
    rfl
  rw [hset, List.toFinset_card_of_nodup (h.nodup_keys.filter _), ← hkeys, List.length_map, hbucket]

lemma Sound.lengths_eq (h : Sound t) :
    t.buckets.toList.map List.length =
      (List.range t.bucketCount).map fun j => #(t.residents j) := by
  refine List.ext_getElem (by simp [bucketCount]) fun j hj _ => ?_
  rw [List.length_map] at hj
  rw [List.getElem_map, List.getElem_map, List.getElem_range, h.length_bucket hj]

lemma Sound.card_keys (h : Sound t) : #t.keys.toFinset = t.size := by
  rw [List.toFinset_card_of_nodup h.nodup_keys, keys, List.length_map, h.counted]

/-! ### The shape -/

lemma Sound.emptyBuckets_shape (h : Sound t) : t.shape.emptyBuckets = #t.vacant := by
  have hcount : t.shape.emptyBuckets = (t.buckets.toList.map List.length).count 0 := by
    rw [shape, foldl_measureChain, Nat.zero_add]
  rw [hcount, h.lengths_eq, List.count_eq_countP, List.countP_map, vacant,
    ← Nat.count_eq_card_filter_range]
  refine List.countP_congr fun j _ => ?_
  simp [Finset.card_eq_zero, residents_eq_empty_iff]

lemma Sound.longestChain_shape (h : Sound t) :
    IsGreatest ((fun j => #(t.residents j)) '' {j | j < t.bucketCount})
      t.shape.longestChain := by
  have hfold : t.shape.longestChain = (t.buckets.toList.map List.length).foldl max 0 := by
    rw [shape, foldl_measureChain]
  rw [hfold, h.lengths_eq]
  exact isGreatest_foldl_max h.pos

/-- What a shape says of a table. -/
structure Describes (t : Table V) (s : Shape) : Prop where
  /-- An iteration yields so many pairs. -/
  entries : s.entries = t.cursor.drain.length
  buckets : s.buckets = t.bucketCount
  emptyBuckets : s.emptyBuckets = #t.vacant
  longestChain :
    IsGreatest ((fun j => #(t.residents j)) '' {j | j < t.bucketCount}) s.longestChain

lemma Sound.describes (h : Sound t) : Describes t t.shape where
  entries := by
    rw [Cursor.drain_cursor]
    exact h.counted
  buckets := rfl
  emptyBuckets := h.emptyBuckets_shape
  longestChain := h.longestChain_shape

/-! ### Pigeonholes -/

lemma Sound.occupied_subset (h : Sound t) : t.occupied ⊆ range t.bucketCount := by
  intro j hj
  obtain ⟨k, -, rfl⟩ := mem_image.mp hj
  exact mem_range.mpr (slot_lt h.pos k)

lemma vacant_eq : t.vacant = range t.bucketCount \ t.occupied := by
  refine Finset.ext fun j => ?_
  rw [vacant, mem_filter, mem_sdiff, occupied, mem_image]
  refine and_congr_right fun _ => ?_
  simp only [List.mem_toFinset, not_exists, not_and]
  rfl

/-- A bucket is empty or in use. -/
lemma Sound.card_vacant_add (h : Sound t) : #t.vacant + #t.occupied = t.bucketCount := by
  rw [vacant_eq, card_sdiff_add_card_eq_card h.occupied_subset, card_range]

lemma card_residents_slot_le (h : Sound t) (key : String) :
    #(t.residents (t.slot key)) ≤ t.shape.longestChain :=
  h.longestChain_shape.2 ⟨t.slot key, slot_lt h.pos key, rfl⟩

/-- Each bucket in use has a key, and none has more than the longest chain. -/
lemma Sound.card_occupied (h : Sound t) :
    #t.occupied ≤ t.size ∧ t.size ≤ t.shape.longestChain * #t.occupied := by
  rw [← h.card_keys]
  refine ⟨card_image_le, card_le_mul_card_image _ _ fun j hj => ?_⟩
  obtain ⟨k, -, rfl⟩ := mem_image.mp hj
  exact card_residents_slot_le h k

/-! ### One chain -/

/-- All nodes are in one chain. -/
structure Piled (s : Shape) : Prop where
  longestChain : s.longestChain = s.entries
  emptyBuckets : s.emptyBuckets + 1 = s.buckets

/-- Keys that share one hash are in one chain. -/
lemma Sound.piled (h : Sound t) {x : UInt64} (hx : ∀ k ∈ t.keys, t.hash k = x)
    (hne : t.keys ≠ []) : Piled t.shape := by
  have hslot : ∀ k ∈ t.keys.toFinset, t.slot k = x.toNat % t.bucketCount := by
    intro k hk
    rw [slot, slotOf, hx k (List.mem_toFinset.mp hk)]
    rfl
  have hone : t.occupied = {x.toNat % t.bucketCount} := by
    rw [occupied, image_congr hslot, image_const ((List.toFinset_nonempty_iff _).mpr hne)]
  obtain ⟨hle, hge⟩ := h.card_occupied
  have hadd := h.card_vacant_add
  rw [hone, card_singleton] at hle hge hadd
  refine ⟨Nat.le_antisymm ?_ (hge.trans_eq (Nat.mul_one _)), ?_⟩
  · obtain ⟨j, -, hj⟩ := h.longestChain_shape.1
    rw [← hj]
    exact (card_filter_le _ _).trans_eq h.card_keys
  · rw [h.emptyBuckets_shape]
    exact hadd

/-- **The shape is the real one.** Of a table that was created, whatever was done to it, the shape
counts the pairs that an iteration yields and the buckets; the empty ones are those that the hash
sends no key to, and the longest chain has as many nodes as the hash sends keys to one bucket at the
most. So there are not fewer keys than buckets in use, and not more than the longest chain times
their number. If all keys share one hash, they are one chain, and are one chain after any resize. -/
theorem shape_run {hash : KeyHash} {count : ℕ} {t : Table V} (h : create hash count = .ok t)
    (history : List (Command V)) :
    let s := t.run history
    let p := s.shape
    s.hash = hash ∧ Describes s p ∧
    (p.emptyBuckets ≤ p.buckets ∧ p.buckets - p.emptyBuckets ≤ p.entries ∧
      p.entries ≤ p.longestChain * (p.buckets - p.emptyBuckets)) ∧
    ∀ x, (∀ k ∈ s.keys, hash k = x) → s.isEmpty = false →
      Piled p ∧ ∀ n,
        let q := (s.resize n).2.shape
        Piled q ∧ q.entries = p.entries ∧ ((s.resize n).1 = .ok () → q.buckets = n) := by
  intro s p
  have hs : Sound s := (sound_create h).1.run history
  have hhash : s.hash = hash := by
    rw [hash_run, (eq_of_create h).2]
  have hempty : p.emptyBuckets = #s.vacant := hs.emptyBuckets_shape
  have hadd : #s.vacant + #s.occupied = p.buckets := hs.card_vacant_add
  have hused : p.buckets - p.emptyBuckets = #s.occupied := by omega
  obtain ⟨hle, hge⟩ := hs.card_occupied
  refine ⟨hhash, hs.describes, ⟨by omega, hused ▸ hle, hused ▸ hge⟩, fun x hx hne => ?_⟩
  have hsize : s.size ≠ 0 := by simpa [isEmpty] using hne
  have hkeys : s.keys ≠ [] := by
    intro hnil
    rw [← hs.card_keys, hnil] at hsize
    exact hsize rfl
  refine ⟨hs.piled (hhash ▸ hx) hkeys, fun n => ?_⟩
  have hr : Sound (s.resize n).2 := hs.perform (.resize n)
  have hperm := keys_resize s n
  have hrhash : (s.resize n).2.hash = hash := (hash_perform s (.resize n)).trans hhash
  refine ⟨hr.piled (x := x) ?_ ?_, ?_, ?_⟩
  · intro k hk
    rw [hrhash]
    exact hx k (hperm.mem_iff.mp hk)
  · intro hnil
    rw [hnil] at hperm
    exact hkeys hperm.symm.eq_nil
  · exact size_resize s n
  · exact bucketCount_resize

/-- Three keys that all collide, one of them taken out again, before and after a resize. -/
theorem shape_run_colliding :
    let t : Table ℕ := ⟨fun _ => 7, #[[], [], []], 0⟩
    let s := t.run [.insert "a" 1, .insert "b" 2, .insert "c" 3, .remove "b"]
    create (fun _ => 7) 3 = .ok t ∧ s.isEmpty = false ∧
      s.shape.entries = 2 ∧ Piled s.shape ∧
      Piled (s.resize 5).2.shape ∧ (s.resize 5).2.shape.emptyBuckets = 4 := by
  intro t s
  have h : create (fun _ => 7) 3 = .ok t := rfl
  have hne : s.isEmpty = false := by decide +kernel
  obtain ⟨-, -, -, hpiled⟩ :=
    shape_run h [.insert "a" 1, .insert "b" 2, .insert "c" 3, .remove "b"]
  obtain ⟨hs, hresize⟩ := hpiled 7 (fun _ _ => rfl) hne
  obtain ⟨hr, -, hbuckets⟩ := hresize 5
  have hempty := hr.emptyBuckets
  rw [hbuckets rfl] at hempty
  exact ⟨h, hne, by decide +kernel, hs, hr, Nat.succ.inj hempty⟩

end Table

end TreeHaul.Store
