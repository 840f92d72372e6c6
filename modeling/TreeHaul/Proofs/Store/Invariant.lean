import Mathlib.Data.List.Nodup
import TreeHaul.Proofs.Store.Chains
import TreeHaul.Store.Command

/-!
The invariant of a table, and what each operation does to its chains.

Every change of a table that does not resize it puts one chain in place of another, so the invariant
and the look-ups are settled once, for `setChain`. Resizing sends each node to the head of its new
chain; a new chain is what the iteration order has of its nodes, in reverse.
-/

universe u

namespace TreeHaul.Store

open scoped List

variable {V : Type u}

/-! ### Replacing one part of a list of lists -/

lemma flatten_around {α : Type u} {l : List (List α)} {i : ℕ} (h : i < l.length) :
    l.flatten = (l.take i).flatten ++ (l[i] ++ (l.drop (i + 1)).flatten) := by
  conv_lhs => rw [← List.take_append_drop i l, List.drop_eq_getElem_cons h]
  rw [List.flatten_append, List.flatten_cons]

lemma flatten_modify {α : Type u} {l : List (List α)} {i : ℕ} (h : i < l.length)
    (f : List α → List α) :
    (l.modify i f).flatten = (l.take i).flatten ++ (f l[i] ++ (l.drop (i + 1)).flatten) := by
  rw [List.modify_eq_take_cons_drop h, List.flatten_append, List.flatten_cons]

section Numbered

/-! Lists of lists in which every item has the number of the list that it is in. -/

variable {α : Type u} {l : List (List α)} {f : α → ℕ}
  (hl : ∀ {i : ℕ} {c : List α}, l[i]? = some c → ∀ x ∈ c, f x = i)
include hl

lemma lt_of_mem_flatten_take {j : ℕ} {x : α} (hx : x ∈ (l.take j).flatten) : f x < j := by
  obtain ⟨c, hc, hxc⟩ := List.mem_flatten.mp hx
  obtain ⟨i, hi⟩ := List.getElem?_of_mem hc
  rw [List.getElem?_take] at hi
  split_ifs at hi with hij
  rwa [hl hi x hxc]

lemma lt_of_mem_flatten_drop {j : ℕ} {x : α} (hx : x ∈ (l.drop (j + 1)).flatten) : j < f x := by
  obtain ⟨c, hc, hxc⟩ := List.mem_flatten.mp hx
  obtain ⟨i, hi⟩ := List.getElem?_of_mem hc
  rw [List.getElem?_drop] at hi
  have := hl hi x hxc
  omega

end Numbered

namespace Table

/-! ### The invariant -/

/-- Every node is in the bucket of its key, no key stands twice in a chain, and the size counts
the nodes. -/
structure Sound (t : Table V) : Prop where
  pos : 0 < t.buckets.size
  placed : ∀ {i : ℕ} {c : Chain V}, t.buckets[i]? = some c → ∀ k ∈ Chain.keys c, t.slot k = i
  distinct : ∀ {i : ℕ} {c : Chain V}, t.buckets[i]? = some c → (Chain.keys c).Nodup
  counted : t.size = t.toList.length

lemma slot_lt {t : Table V} (h : 0 < t.buckets.size) (key : String) :
    t.slot key < t.buckets.size := Nat.mod_lt _ h

lemma getElem?_slot {t : Table V} (h : 0 < t.buckets.size) (key : String) :
    t.buckets[t.slot key]? = some (t.chainOf key) := by
  rw [chainOf, Array.getElem?_eq_getElem (slot_lt h key), Option.getD_some]

lemma mem_toList {t : Table V} {n : String × V} :
    n ∈ t.toList ↔ ∃ (i : ℕ) (c : Chain V), t.buckets[i]? = some c ∧ n ∈ c := by
  rw [toList, List.mem_flatten]
  constructor
  · rintro ⟨c, hc, hn⟩
    obtain ⟨i, hi⟩ := List.getElem?_of_mem hc
    exact ⟨i, c, by simpa using hi, hn⟩
  · rintro ⟨i, c, hc, hn⟩
    exact ⟨c, Array.mem_toList_iff.mpr (Array.mem_of_getElem? hc), hn⟩

namespace Sound

variable {t : Table V}

lemma numbered (h : Sound t) {i : ℕ} {c : List (String × V)} (hc : t.buckets.toList[i]? = some c) :
    ∀ n ∈ c, t.slot n.1 = i := fun n hn =>
  h.placed (by simpa using hc) n.1 (Chain.mem_keys_of_mem hn)

/-- A node is in the table if it is in the chain in which its key is looked for. -/
lemma mem_toList_iff (h : Sound t) {n : String × V} : n ∈ t.toList ↔ n ∈ t.chainOf n.1 := by
  rw [mem_toList]
  constructor
  · rintro ⟨i, c, hc, hn⟩
    have hi := h.placed hc n.1 (Chain.mem_keys_of_mem hn)
    rw [chainOf, hi, hc]
    exact hn
  · exact fun hn => ⟨_, _, getElem?_slot h.pos n.1, hn⟩

lemma find?_eq_some_iff (h : Sound t) {key : String} {v : V} :
    t.find? key = some v ↔ (key, v) ∈ t.toList := by
  rw [h.mem_toList_iff, find?, Chain.find?_eq_some_iff (h.distinct (getElem?_slot h.pos key))]

/-- No key stands twice in the whole table. -/
lemma nodup_keys (h : Sound t) : t.keys.Nodup := by
  rw [keys, toList, List.map_flatten, List.nodup_flatten]
  refine ⟨fun l hl => ?_, ?_⟩
  · obtain ⟨c, hc, rfl⟩ := List.mem_map.mp hl
    obtain ⟨i, hi⟩ := List.getElem?_of_mem hc
    exact h.distinct (i := i) (by simpa using hi)
  · rw [List.pairwise_iff_getElem]
    intro i j hi hj hij k hki hkj
    -- a key of two buckets would have two slots
    have hs (m : ℕ) (hm : m < (t.buckets.toList.map fun c => c.map Prod.fst).length)
        (hk : k ∈ (t.buckets.toList.map fun c => c.map Prod.fst)[m]) : t.slot k = m := by
      rw [List.length_map] at hm
      rw [List.getElem_map] at hk
      exact h.placed (Array.getElem?_eq_getElem (by simpa using hm)) k hk
    have := hs i hi hki
    have := hs j hj hkj
    omega

lemma nodup_toList (h : Sound t) : t.toList.Nodup := h.nodup_keys.of_map _

end Sound

/-! ### Another chain for one bucket -/

/-- The table with another chain in the bucket of a key, and another size. -/
def setChain (t : Table V) (key : String) (c : Chain V) (size : ℕ) : Table V :=
  { t with buckets := t.buckets.modify (t.slot key) fun _ => c, size := size }

@[simp] lemma slot_setChain (t : Table V) (key : String) (c : Chain V) (n : ℕ) (k : String) :
    (t.setChain key c n).slot k = t.slot k := by
  simp [slot, setChain]

@[simp] lemma size_buckets_setChain (t : Table V) (key : String) (c : Chain V) (n : ℕ) :
    (t.setChain key c n).buckets.size = t.buckets.size := by
  simp [setChain]

lemma getElem?_setChain (t : Table V) (key : String) (c : Chain V) (n i : ℕ) :
    (t.setChain key c n).buckets[i]? =
      if t.slot key = i then t.buckets[i]?.map fun _ => c else t.buckets[i]? := by
  rw [setChain, Array.getElem?_modify]

lemma chainOf_setChain {t : Table V} (h : 0 < t.buckets.size) (key k : String) (c : Chain V)
    (n : ℕ) :
    (t.setChain key c n).chainOf k = if t.slot key = t.slot k then c else t.chainOf k := by
  rw [chainOf, slot_setChain, getElem?_setChain, getElem?_slot h k]
  split <;> rfl

lemma find?_setChain {t : Table V} (h : 0 < t.buckets.size) (key k : String) (c : Chain V)
    (n : ℕ) :
    (t.setChain key c n).find? k = if t.slot key = t.slot k then c.find? k else t.find? k := by
  rw [find?, chainOf_setChain h]
  split <;> rfl

/-- The nodes in the buckets before that of a key. -/
def below (t : Table V) (key : String) : List (String × V) :=
  (t.buckets.toList.take (t.slot key)).flatten

/-- The nodes in the buckets after that of a key. -/
def above (t : Table V) (key : String) : List (String × V) :=
  (t.buckets.toList.drop (t.slot key + 1)).flatten

lemma toList_around {t : Table V} (h : 0 < t.buckets.size) (key : String) :
    t.toList = t.below key ++ (t.chainOf key ++ t.above key) := by
  have hs : t.slot key < t.buckets.toList.length := by simpa using slot_lt h key
  have hc : t.buckets.toList[t.slot key] = t.chainOf key := by
    have := getElem?_slot h key
    rw [Array.getElem?_eq_getElem (slot_lt h key), Option.some.injEq] at this
    simpa using this
  rw [toList, flatten_around hs, hc, below, above]

/-- The nodes before a bucket and after it stay as they are and where they are. -/
lemma toList_setChain {t : Table V} (h : 0 < t.buckets.size) (key : String) (c : Chain V) (n : ℕ) :
    (t.setChain key c n).toList = t.below key ++ (c ++ t.above key) := by
  have hs : t.slot key < t.buckets.toList.length := by simpa using slot_lt h key
  rw [toList, setChain, Array.toList_modify, flatten_modify hs, below, above]

/-- What a chain must satisfy to stand in the place of another. -/
lemma Sound.setChain {t : Table V} (h : Sound t) {key : String} {c : Chain V} {n : ℕ}
    (hs : ∀ k ∈ Chain.keys c, t.slot k = t.slot key) (hc : (Chain.keys c).Nodup)
    (hn : n + (t.chainOf key).length = t.size + c.length) : Sound (t.setChain key c n) where
  pos := by simpa using h.pos
  placed {i d} hd := by
    intro k hk
    rw [slot_setChain]
    rw [getElem?_setChain] at hd
    split at hd
    · obtain ⟨_, -, rfl⟩ := Option.map_eq_some_iff.mp hd
      rw [hs k hk]
      assumption
    · exact h.placed hd k hk
  distinct {i d} hd := by
    rw [getElem?_setChain] at hd
    split at hd
    · obtain ⟨_, -, rfl⟩ := Option.map_eq_some_iff.mp hd
      exact hc
    · exact h.distinct hd
  counted := by
    have ht := h.counted
    rw [toList_around h.pos key] at ht
    rw [toList_setChain h.pos]
    simp only [List.length_append] at ht ⊢
    change n = _
    omega

lemma modify_slot (t : Table V) (key : String) (f : Chain V → Chain V) :
    t.buckets.modify (t.slot key) f = t.buckets.modify (t.slot key) fun _ => f (t.chainOf key) := by
  refine Array.ext_getElem? fun i => ?_
  rw [Array.getElem?_modify, Array.getElem?_modify]
  split
  · rename_i hi
    subst hi
    rw [chainOf]
    cases t.buckets[t.slot key]? <;> rfl
  · rfl

lemma pushFront_eq (t : Table V) (key : String) (v : V) :
    t.pushFront key v = t.setChain key ((key, v) :: t.chainOf key) (t.size + 1) := by
  rw [pushFront, setChain, modify_slot]

lemma adjust_eq (t : Table V) (key : String) (f : V → V) :
    t.adjust key f = t.setChain key (Chain.modify key f (t.chainOf key)) t.size := by
  rw [adjust, setChain, modify_slot]

/-- The table without a key. -/
def erase (t : Table V) (key : String) : Table V :=
  t.setChain key (Chain.erase key (t.chainOf key)) (t.size - 1)

/-- Both walks of a removal, in one look-up. -/
lemma remove_eq (t : Table V) (key : String) :
    t.remove key = match t.find? key with
      | none => (.error (.notFound key), t)
      | some v => (.ok v, t.erase key) := by
  rw [remove, find?]
  cases hp : (t.chainOf key).position? key with
  | none =>
    rw [Chain.position?_eq_none_iff, ← Chain.find?_eq_none_iff] at hp
    rw [hp]
  | some i =>
    obtain ⟨v, hv, hu⟩ := Chain.unlink?_of_position? hp
    simp only [hv, hu]
    rfl

section Point

variable {t : Table V} (h : Sound t)
include h

lemma Sound.slot_eq_of_mem_chainOf {key k : String} (hk : k ∈ Chain.keys (t.chainOf key)) :
    t.slot k = t.slot key := h.placed (getElem?_slot h.pos key) k hk

lemma Sound.pushFront {key : String} (v : V) (hn : t.find? key = none) :
    Sound (t.pushFront key v) := by
  rw [pushFront_eq]
  refine h.setChain ?_ ?_ ?_
  · intro k hk
    rcases List.mem_cons.mp hk with rfl | hk
    · rfl
    · exact h.slot_eq_of_mem_chainOf hk
  · rw [Chain.keys_cons, List.nodup_cons]
    exact ⟨Chain.find?_eq_none_iff.mp hn, h.distinct (getElem?_slot h.pos key)⟩
  · simp only [List.length_cons]
    omega

lemma Sound.adjust (key : String) (f : V → V) : Sound (t.adjust key f) := by
  rw [adjust_eq]
  refine h.setChain ?_ ?_ ?_
  · rw [Chain.keys_modify]
    exact fun k hk => h.slot_eq_of_mem_chainOf hk
  · rw [Chain.keys_modify]
    exact h.distinct (getElem?_slot h.pos key)
  · rw [Chain.length_modify]

lemma Sound.erase {key : String} {v : V} (hv : t.find? key = some v) : Sound (t.erase key) := by
  have hd := h.distinct (getElem?_slot h.pos key)
  have hk : key ∈ Chain.keys (t.chainOf key) :=
    Chain.mem_keys_of_mem (Chain.mem_of_find?_eq_some hv)
  refine h.setChain ?_ ?_ ?_
  · intro k hk'
    rw [Chain.keys_erase] at hk'
    exact h.slot_eq_of_mem_chainOf (List.mem_of_mem_erase hk')
  · rw [Chain.keys_erase]
    exact hd.erase key
  · have hl := List.length_erase_of_mem hk
    rw [← Chain.keys_erase, Chain.length_keys, Chain.length_keys] at hl
    have hpos := List.length_pos_of_mem hk
    rw [Chain.length_keys] at hpos
    have ht := h.counted
    rw [toList_around h.pos key, List.length_append, List.length_append] at ht
    omega

lemma find?_pushFront (key k : String) (v : V) :
    (t.pushFront key v).find? k = if k = key then some v else t.find? k := by
  rw [pushFront_eq, find?_setChain h.pos]
  by_cases hk : k = key
  · simp [hk, Chain.find?]
  · have hk' : ¬ key = k := fun e => hk e.symm
    rw [if_neg hk]
    split
    · rename_i hs
      rw [Chain.find?, if_neg hk', find?, chainOf, chainOf, hs]
    · rfl

lemma find?_adjust (key k : String) (f : V → V) :
    (t.adjust key f).find? k = if k = key then (t.find? k).map f else t.find? k := by
  rw [adjust_eq, find?_setChain h.pos]
  split
  · rename_i hs
    rw [Chain.find?_modify, find?, chainOf, chainOf, hs]
  · rename_i hs
    rw [if_neg fun e => hs (by rw [e])]

lemma find?_erase (key k : String) :
    (t.erase key).find? k = if k = key then none else t.find? k := by
  rw [erase, find?_setChain h.pos]
  by_cases hk : k = key
  · subst hk
    simp [Chain.find?_erase_self (h.distinct (getElem?_slot h.pos k))]
  · rw [if_neg hk]
    split
    · rename_i hs
      rw [Chain.find?_erase_of_ne hk, find?, chainOf, chainOf, hs]
    · rfl

end Point

/-! ### Resizing -/

@[simp] lemma size_relink (hash : KeyHash) (b : Array (Chain V)) (n : String × V) :
    (relink hash b n).size = b.size := by simp [relink]

@[simp] lemma size_foldl_relink (hash : KeyHash) (l : List (String × V)) (b : Array (Chain V)) :
    (l.foldl (relink hash) b).size = b.size := by
  induction l generalizing b with
  | nil => rfl
  | cons n l ih => rw [List.foldl_cons, ih, size_relink]

/-- What relinking adds to a chain: its nodes among those relinked, the last one at the head. -/
lemma getElem?_foldl_relink (hash : KeyHash) (l : List (String × V)) (b : Array (Chain V))
    (j : ℕ) :
    (l.foldl (relink hash) b)[j]? =
      b[j]?.map ((l.filter fun n => slotOf hash n.1 b.size = j).reverse ++ ·) := by
  induction l generalizing b with
  | nil => simp
  | cons n l ih =>
    rw [List.foldl_cons, ih, size_relink, relink, Array.getElem?_modify]
    by_cases h : slotOf hash n.1 b.size = j
    · simp [h, Function.comp_def]
    · simp [h]

lemma toList_flatten_relink {b : Array (Chain V)} (h : 0 < b.size) (hash : KeyHash)
    (n : String × V) : (relink hash b n).toList.flatten ~ n :: b.toList.flatten := by
  have hs : slotOf hash n.1 b.size < b.toList.length := by
    rw [Array.length_toList]
    exact Nat.mod_lt _ h
  rw [relink, Array.toList_modify, flatten_modify hs, flatten_around hs, List.cons_append]
  exact List.perm_middle

/-- Relinking loses no node and makes none up. -/
lemma toList_flatten_foldl_relink (hash : KeyHash) (l : List (String × V)) {b : Array (Chain V)}
    (h : 0 < b.size) :
    (l.foldl (relink hash) b).toList.flatten ~ l ++ b.toList.flatten := by
  induction l generalizing b with
  | nil => exact List.Perm.refl _
  | cons n l ih =>
    rw [List.foldl_cons]
    have h' : 0 < (relink hash b n).size := by rwa [size_relink]
    calc (l.foldl (relink hash) (relink hash b n)).toList.flatten
        ~ l ++ (relink hash b n).toList.flatten := ih h'
      _ ~ l ++ n :: b.toList.flatten := (toList_flatten_relink h hash n).append_left l
      _ ~ n :: l ++ b.toList.flatten := List.perm_middle

/-- All nodes spread anew over `count` chains. -/
def spread (t : Table V) (count : ℕ) : Table V :=
  { t with buckets := t.toList.foldl (relink t.hash) (Array.replicate count []) }

lemma pos_of_emptyBuckets {count : ℕ} {b : Array (Chain V)} (h : emptyBuckets V count = .ok b) :
    0 < count ∧ b = Array.replicate count [] := by
  rw [emptyBuckets] at h
  split_ifs at h with h0
  exact ⟨Nat.pos_of_ne_zero h0, (Except.ok.inj h).symm⟩

lemma resize_eq (t : Table V) (count : ℕ) :
    t.resize count = match emptyBuckets V count with
      | .error e => (.error e, t)
      | .ok _ => (.ok (), t.spread count) := by
  rw [resize]
  cases h : emptyBuckets V count with
  | error e => rfl
  | ok b =>
    simp only
    rw [spread, toList, ← (pos_of_emptyBuckets h).2, List.foldl_flatten, ← Array.foldl_toList]

@[simp] lemma size_buckets_spread (t : Table V) (count : ℕ) :
    (t.spread count).buckets.size = count := by
  simp [spread]

/-- A new chain is what the iteration order has of its nodes, in reverse. -/
lemma getElem?_spread (t : Table V) (count j : ℕ) :
    (t.spread count).buckets[j]? =
      if j < count then some (t.toList.filter fun n => slotOf t.hash n.1 count = j).reverse
      else none := by
  rw [spread, getElem?_foldl_relink, Array.getElem?_replicate, Array.size_replicate]
  split <;> simp

lemma toList_spread {count : ℕ} (h : 0 < count) (t : Table V) :
    (t.spread count).toList ~ t.toList := by
  have hp := toList_flatten_foldl_relink t.hash t.toList (b := Array.replicate count [])
    (by simpa using h)
  simpa [toList, spread] using hp

lemma Sound.spread {t : Table V} (h : Sound t) {count : ℕ} (hc : 0 < count) :
    Sound (t.spread count) where
  pos := by rwa [size_buckets_spread]
  placed {i c} hi := by
    intro k hk
    rw [getElem?_spread] at hi
    split_ifs at hi
    rw [Option.some.injEq] at hi
    subst hi
    obtain ⟨n, hn, rfl⟩ := List.mem_map.mp hk
    rw [slot, size_buckets_spread]
    change slotOf t.hash n.1 count = i
    simpa using (List.mem_filter.mp (List.mem_reverse.mp hn)).2
  distinct {i c} hi := by
    rw [getElem?_spread] at hi
    split_ifs at hi
    rw [Option.some.injEq] at hi
    subst hi
    rw [Chain.keys, List.map_reverse, List.nodup_reverse]
    exact h.nodup_keys.sublist (List.filter_sublist.map _)
  counted := by rw [(toList_spread hc t).length_eq, ← h.counted]; rfl

/-! ### Histories -/

/-- A table that was created has as many empty chains as were asked for. -/
lemma eq_of_create {hash : KeyHash} {count : ℕ} {t : Table V} (h : create hash count = .ok t) :
    emptyBuckets V count = .ok t.buckets ∧ t = ⟨hash, Array.replicate count [], 0⟩ := by
  rw [create] at h
  cases hb : emptyBuckets V count with
  | error e =>
    rw [hb] at h
    cases h
  | ok b =>
    obtain ⟨-, rfl⟩ := pos_of_emptyBuckets hb
    rw [hb] at h
    obtain rfl := Except.ok.inj h
    exact ⟨rfl, rfl⟩

lemma sound_create {hash : KeyHash} {count : ℕ} {t : Table V} (h : create hash count = .ok t) :
    Sound t ∧ t.toList = [] := by
  obtain ⟨hb, rfl⟩ := eq_of_create h
  have hpos := (pos_of_emptyBuckets hb).1
  have hnil : toList ⟨hash, Array.replicate count ([] : Chain V), 0⟩ = [] := by simp [toList]
  refine ⟨⟨by simpa using hpos, ?_, ?_, by rw [hnil]; rfl⟩, hnil⟩
  all_goals
    intro i c hc
    rw [Array.getElem?_replicate] at hc
    split_ifs at hc
    obtain rfl := Option.some.inj hc
    simp

lemma Sound.clear {t : Table V} (h : Sound t) : Sound t.clear := by
  refine ⟨by simpa [Table.clear] using h.pos, ?_, ?_, by rw [toList_clear]; rfl⟩
  all_goals
    intro i c hc
    rw [Table.clear, Array.getElem?_map] at hc
    obtain ⟨_, -, rfl⟩ := Option.map_eq_some_iff.mp hc
    simp

/-- **Every command keeps the invariant.** -/
theorem Sound.perform {t : Table V} (h : Sound t) (c : Command V) : Sound (t.perform c).2 := by
  cases c with
  | insert key value =>
    simp only [Table.perform, Table.insert]
    cases hf : t.find? key with
    | none => exact h.pushFront value hf
    | some _ => exact h
  | find key => exact h
  | modify key f =>
    simp only [Table.perform, modify?]
    cases t.find? key with
    | none => exact h
    | some _ => exact h.adjust key f
  | contains key => exact h
  | update key value =>
    simp only [Table.perform, Table.update]
    cases t.find? key with
    | none => exact h
    | some _ => exact h.adjust key _
  | updateWith key f =>
    simp only [Table.perform, Table.updateWith]
    cases t.find? key with
    | none => exact h
    | some _ => exact h.adjust key f
  | remove key =>
    simp only [Table.perform, remove_eq]
    cases hf : t.find? key with
    | none => exact h
    | some _ => exact h.erase hf
  | resize count =>
    simp only [Table.perform, resize_eq]
    cases hb : emptyBuckets V count with
    | error e => exact h
    | ok b => exact h.spread (pos_of_emptyBuckets hb).1
  | clear => exact h.clear
  | size => exact h
  | isEmpty => exact h
  | accumulate plus key delta =>
    simp only [Table.perform, Table.accumulate]
    cases hf : t.find? key with
    | none => exact h.pushFront delta hf
    | some _ => exact h.adjust key _

/-- **Every history keeps the invariant.** -/
theorem Sound.run {t : Table V} (h : Sound t) (history : List (Command V)) :
    Sound (t.run history) := by
  induction history generalizing t with
  | nil => exact h
  | cons c cs ih => exact ih (h.perform c)

end Table

end TreeHaul.Store
