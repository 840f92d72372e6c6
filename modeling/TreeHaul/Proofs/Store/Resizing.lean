import TreeHaul.Proofs.Store.FiniteMap

/-!
The order of the nodes after a resize. The nodes are moved one by one in the order of an iteration,
each to the head of its new chain, so a new chain lists its nodes the other way round. A resize to
the number of buckets that are there already turns every chain over and moves nothing else; two of
them undo each other.
-/

universe u

namespace TreeHaul.Store

open scoped List

variable {V : Type u}

/-! ### Picking one part of a list of lists -/

/-- Where every item names the part that it is in, the items of one part are that part. -/
lemma filter_flatten {α : Type u} {l : List (List α)} {f : α → ℕ}
    (hl : ∀ {i : ℕ} {c : List α}, l[i]? = some c → ∀ x ∈ c, f x = i) {j : ℕ} (hj : j < l.length) :
    (l.flatten.filter fun x => f x = j) = l[j] := by
  have hbefore : ((l.take j).flatten.filter fun x => f x = j) = [] := by
    rw [List.filter_eq_nil_iff]
    intro x hx
    simpa using (lt_of_mem_flatten_take hl hx).ne
  have hafter : ((l.drop (j + 1)).flatten.filter fun x => f x = j) = [] := by
    rw [List.filter_eq_nil_iff]
    intro x hx
    simpa using (lt_of_mem_flatten_drop hl hx).ne'
  have hpart : (l[j].filter fun x => f x = j) = l[j] := by
    rw [List.filter_eq_self]
    intro x hx
    simpa using hl (List.getElem?_eq_getElem hj) x hx
  rw [flatten_around hj, List.filter_append, List.filter_append, hbefore, hpart, hafter]
  simp

namespace Table

/-! ### The number of buckets -/

lemma grant_of_emptyBuckets {count : ℕ} {b : Array (Chain V)} (h : emptyBuckets V count = .ok b) :
    grant count = .ok () := by
  rw [grant_eq (V := V), h]
  rfl

lemma fst_resize (t : Table V) (count : ℕ) : (t.resize count).1 = grant count := by
  rw [resize_eq, grant_eq (V := V)]
  cases emptyBuckets V count <;> rfl

lemma resize_of_grant (t : Table V) {count : ℕ} (h : grant count = .ok ()) :
    t.resize count = (.ok (), t.spread count) := by
  rw [grant_eq (V := V)] at h
  rw [resize_eq]
  cases hb : emptyBuckets V count with
  | error e =>
    rw [hb] at h
    cases h
  | ok b => rfl

lemma size_resize (t : Table V) (count : ℕ) : (t.resize count).2.size = t.size := by
  rw [resize_eq]
  cases emptyBuckets V count <;> rfl

lemma bucketCount_resize {t : Table V} {count : ℕ} (h : (t.resize count).1 = .ok ()) :
    (t.resize count).2.bucketCount = count := by
  rw [fst_resize] at h
  rw [resize_of_grant t h]
  exact size_buckets_spread t count

/-- A resize keeps the keys, whether it is accepted or refused. -/
lemma keys_resize (t : Table V) (count : ℕ) : (t.resize count).2.keys.Perm t.keys := by
  rw [resize_eq]
  cases hb : emptyBuckets V count with
  | error e => exact List.Perm.refl _
  | ok b => exact (toList_spread (pos_of_emptyBuckets hb).1 t).map Prod.fst

/-- The number of buckets stays unless a resize goes through. -/
lemma bucketCount_perform (t : Table V) {c : Command V}
    (hc : ∀ n, c = .resize n → grant n ≠ .ok ()) :
    (t.perform c).2.bucketCount = t.bucketCount := by
  cases c with
  | insert key value =>
    simp only [perform, insert]
    split
    · rfl
    · exact bucketCount_pushFront ..
  | modify key f =>
    simp only [perform, modify?]
    split
    · exact bucketCount_adjust ..
    · rfl
  | update key value =>
    simp only [perform, update]
    split
    · exact bucketCount_adjust ..
    · rfl
  | updateWith key f =>
    simp only [perform, updateWith]
    split
    · exact bucketCount_adjust ..
    · rfl
  | remove key =>
    simp only [perform, remove_eq]
    split
    · rfl
    · exact size_buckets_setChain ..
  | resize n =>
    have hn := hc n rfl
    rw [grant_eq (V := V)] at hn
    simp only [perform, resize_eq]
    cases hb : emptyBuckets V n with
    | error e => rfl
    | ok b =>
      rw [hb] at hn
      exact absurd rfl hn
  | clear => exact bucketCount_clear t
  | accumulate plus key delta =>
    simp only [perform, accumulate]
    split
    · exact bucketCount_adjust ..
    · exact bucketCount_pushFront ..
  | find _ | contains _ | size | isEmpty => rfl

/-- A table has so many buckets as can be had, and goes on having. -/
lemma grant_perform {t : Table V} (h : grant t.bucketCount = .ok ()) (c : Command V) :
    grant (t.perform c).2.bucketCount = .ok () := by
  by_cases hc : ∀ n, c = .resize n → grant n ≠ .ok ()
  · rwa [bucketCount_perform t hc]
  · push Not at hc
    obtain ⟨n, rfl, hn⟩ := hc
    have hr : (t.perform (.resize n)).2 = t.spread n := congrArg Prod.snd (resize_of_grant t hn)
    rwa [hr, bucketCount, size_buckets_spread]

lemma grant_run {t : Table V} (h : grant t.bucketCount = .ok ()) (history : List (Command V)) :
    grant (t.run history).bucketCount = .ok () := by
  induction history generalizing t with
  | nil => exact h
  | cons c cs ih => exact ih (grant_perform h c)

lemma grant_create {hash : KeyHash} {count : ℕ} {t : Table V} (h : create hash count = .ok t) :
    grant t.bucketCount = .ok () := by
  obtain ⟨hb, rfl⟩ := eq_of_create h
  rw [bucketCount, Array.size_replicate]
  exact grant_of_emptyBuckets hb

/-! ### Chains turned over -/

/-- The table with each chain the other way round. -/
def turned (t : Table V) : Table V := { t with buckets := t.buckets.map List.reverse }

lemma turned_turned (t : Table V) : t.turned.turned = t := by
  unfold turned
  simp

lemma getElem?_turned (t : Table V) (i : ℕ) :
    t.turned.buckets[i]? = t.buckets[i]?.map List.reverse := by
  rw [turned, Array.getElem?_map]

lemma Sound.turned {t : Table V} (h : Sound t) : Sound t.turned where
  pos := by
    rw [Table.turned, Array.size_map]
    exact h.pos
  placed {i c} hc := by
    intro k hk
    rw [getElem?_turned] at hc
    obtain ⟨d, hd, rfl⟩ := Option.map_eq_some_iff.mp hc
    rw [Chain.keys, List.map_reverse, List.mem_reverse] at hk
    have hslot : t.turned.slot k = t.slot k := by rw [slot, slot, Table.turned, Array.size_map]
    rw [hslot]
    exact h.placed hd k hk
  distinct {i c} hc := by
    rw [getElem?_turned] at hc
    obtain ⟨d, hd, rfl⟩ := Option.map_eq_some_iff.mp hc
    rw [Chain.keys, List.map_reverse, List.nodup_reverse]
    exact h.distinct hd
  counted := by
    have hlength : t.turned.toList.length = t.toList.length := by
      simp [toList, Table.turned, Function.comp_def, List.length_flatten]
    rw [hlength]
    exact h.counted

/-- As many buckets as before put every node into its old bucket. -/
lemma Sound.spread_bucketCount {t : Table V} (h : Sound t) : t.spread t.bucketCount = t.turned := by
  have hbuckets : (t.spread t.bucketCount).buckets = t.turned.buckets := by
    refine Array.ext_getElem? fun j => ?_
    rw [getElem?_spread, getElem?_turned]
    split
    · rename_i hj
      have hlist : j < t.buckets.toList.length := hj
      have hbucket : t.buckets[j]? = some t.buckets[j] := Array.getElem?_eq_getElem hj
      have hown : (t.toList.filter fun n => slotOf t.hash n.1 t.bucketCount = j) = t.buckets[j] :=
        filter_flatten h.numbered hlist
      rw [hown, hbucket]
      rfl
    · rename_i hj
      have hnone : t.buckets[j]? = none := Array.getElem?_eq_none (Nat.not_lt.mp hj)
      rw [hnone]
      rfl
  calc t.spread t.bucketCount = { t with buckets := (t.spread t.bucketCount).buckets } := rfl
    _ = t.turned := by rw [hbuckets]; rfl

lemma Sound.resize_bucketCount {t : Table V} (h : Sound t) (hg : grant t.bucketCount = .ok ()) :
    t.resize t.bucketCount = (.ok (), t.turned) := by
  rw [resize_of_grant t hg, h.spread_bucketCount]

/-! ### Order -/

/-- What a table is after its nodes were moved to so many chains. -/
structure Moved (count : ℕ) (s r : Table V) : Prop where
  bucketCount : r.bucketCount = count
  hash : r.hash = s.hash
  size : r.size = s.size
  /-- A chain has what an iteration yielded of its nodes, the last one at the head. -/
  chain : ∀ j < count, r.buckets[j]? =
    some (s.cursor.drain.filter fun n => (s.hash n.1).toNat % count = j).reverse
  /-- An iteration yields the same pairs as before. -/
  nodes : r.cursor.drain ~ s.cursor.drain
  once : r.keys.Nodup

lemma Sound.moved_spread {t : Table V} (h : Sound t) {count : ℕ} (hc : 0 < count) :
    Moved count t (t.spread count) where
  bucketCount := size_buckets_spread t count
  hash := rfl
  size := rfl
  chain j hj := by
    rw [getElem?_spread, if_pos hj, Cursor.drain_cursor]
    rfl
  nodes := by
    rw [Cursor.drain_cursor, Cursor.drain_cursor]
    exact toList_spread hc t
  once := (h.spread hc).nodup_keys

/-- **The order after a resize** is known node by node. Of a table that was created, whatever was
done to it, a resize goes through exactly if so many buckets can be had; each new chain then lists,
the last one first, what an iteration yielded before of the keys that the hash sends there, with
their payloads. As many buckets as there are can always be had: then every chain is turned over in
its place, and once more gives the very table from before. -/
theorem resize_run {hash : KeyHash} {count : ℕ} {t : Table V} (h : create hash count = .ok t)
    (history : List (Command V)) :
    let s := t.run history
    (∀ n, (s.resize n).1 = grant n ∧ (grant n = .ok () → Moved n s (s.resize n).2)) ∧
    s.resize s.bucketCount = (.ok (), { s with buckets := s.buckets.map List.reverse }) ∧
    let r := (s.resize s.bucketCount).2
    r.resize r.bucketCount = (.ok (), s) := by
  intro s
  have hs : Sound s := (sound_create h).1.run history
  have hg : grant s.bucketCount = .ok () := grant_run (grant_create h) history
  have hturn : s.resize s.bucketCount = (.ok (), s.turned) := hs.resize_bucketCount hg
  refine ⟨fun n => ⟨fst_resize s n, fun hn => ?_⟩, hturn, ?_⟩
  · have hpos : 0 < n := by
      refine Nat.pos_of_ne_zero fun h0 => ?_
      rw [h0] at hn
      cases hn
    rw [resize_of_grant s hn]
    exact hs.moved_spread hpos
  · have hcount : s.turned.bucketCount = s.bucketCount := by
      rw [bucketCount, turned, Array.size_map, bucketCount]
    have hback : s.turned.resize s.turned.bucketCount = (.ok (), s.turned.turned) :=
      hs.turned.resize_bucketCount (hcount ▸ hg)
    rw [turned_turned] at hback
    rw [hturn]
    exact hback

/-- Keys that all collide come out the other way round, at the other end of the table. -/
theorem resize_run_colliding :
    let t : Table ℕ := ⟨fun _ => 7, #[[], [], []], 0⟩
    let s := t.run [.insert "a" 1, .insert "b" 2, .insert "c" 3, .remove "b", .insert "d" 4]
    create (fun _ => 7) 3 = .ok t ∧
      s.cursor.drain = [("d", 4), ("c", 3), ("a", 1)] ∧
      Moved 5 s (s.resize 5).2 ∧
      (s.resize 5).2.buckets[2]? = some [("a", 1), ("c", 3), ("d", 4)] := by
  intro t s
  have h : create (fun _ => 7) 3 = .ok t := rfl
  obtain ⟨hmoved, -⟩ := resize_run h
    [.insert "a" 1, .insert "b" 2, .insert "c" 3, .remove "b", .insert "d" 4]
  refine ⟨h, ?_, (hmoved 5).2 rfl, by decide +kernel⟩
  rw [Cursor.drain_cursor]
  decide +kernel

end Table

end TreeHaul.Store
