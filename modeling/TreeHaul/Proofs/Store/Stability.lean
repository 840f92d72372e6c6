import TreeHaul.Proofs.Store.Representation
import TreeHaul.Proofs.Store.Resizing

/-!
What an operation on one key does to the order of an iteration. A new pair comes right before all
that its bucket had, a removed one leaves the others as they stood, and a payload changes in its
place; so a removal undoes an insertion, node by node. While no resize goes through, a bucket lists
its keys in the order in which they came in, the last one at the head.
-/

universe u

namespace TreeHaul.Store

variable {V : Type u}

/-! ### The order in which keys come in -/

/-- The keys that are there after a command, the one that came in last in front. A key that is there
already does not come in again. -/
def Command.arrive (keys : List String) : Command V → List String
  | .insert key _ | .accumulate _ key _ => if key ∈ keys then keys else key :: keys
  | .remove key => keys.filter (· ≠ key)
  | .clear => []
  | .find _ | .modify .. | .contains _ | .update .. | .updateWith .. | .resize _ | .size
  | .isEmpty => keys

/-- The keys that are there after a history which began with none. -/
def arrivals (history : List (Command V)) : List String := history.foldl Command.arrive []

namespace Table

/-! ### One key -/

/-- A pair has come in. An iteration yields it right before all that its bucket had: behind the
nodes of the buckets before, and before those of the buckets after. -/
structure Entered (key : String) (v : V) (s r : Table V) : Prop where
  parts : ∃ below own above : List (String × V),
    (∀ n ∈ below, s.slot n.1 < s.slot key) ∧ (∀ n ∈ own, s.slot n.1 = s.slot key) ∧
    (∀ n ∈ above, s.slot key < s.slot n.1) ∧
    s.cursor.drain = below ++ (own ++ above) ∧
    r.cursor.drain = below ++ ((key, v) :: own ++ above)

/-- A pair has gone, and an iteration yields the others as it did. -/
structure Left (key : String) (v : V) (s r : Table V) : Prop where
  parts : ∃ before after : List (String × V),
    s.cursor.drain = before ++ (key, v) :: after ∧ r.cursor.drain = before ++ after

/-- A payload has changed in its place. -/
structure Changed (key : String) (old new : V) (s r : Table V) : Prop where
  parts : ∃ before after : List (String × V),
    s.cursor.drain = before ++ (key, old) :: after ∧ r.cursor.drain = before ++ (key, new) :: after

section Point

variable {t : Table V} (h : Sound t)
include h

lemma Sound.entered_pushFront (key : String) (v : V) : Entered key v t (t.pushFront key v) := by
  refine ⟨t.below key, t.chainOf key, t.above key, fun n hn => lt_of_mem_flatten_take h.numbered hn,
    fun n hn => h.slot_eq_of_mem_chainOf (Chain.mem_keys_of_mem hn),
    fun n hn => lt_of_mem_flatten_drop h.numbered hn, ?_, ?_⟩
  · rw [Cursor.drain_cursor, toList_around h.pos key]
  · rw [Cursor.drain_cursor, pushFront_eq, toList_setChain h.pos]

lemma Sound.left_erase {key : String} {v : V} (hv : t.find? key = some v) :
    Left key v t (t.erase key) := by
  obtain ⟨before, after, hc, he, -⟩ := Chain.exists_split hv
  refine ⟨t.below key ++ before, after ++ t.above key, ?_, ?_⟩
  · rw [Cursor.drain_cursor, toList_around h.pos key, hc]
    simp
  · rw [Cursor.drain_cursor, Table.erase, toList_setChain h.pos, he]
    simp

lemma Sound.changed_adjust {key : String} {v : V} (hv : t.find? key = some v) (f : V → V) :
    Changed key v (f v) t (t.adjust key f) := by
  obtain ⟨before, after, hc, -, hm⟩ := Chain.exists_split hv
  refine ⟨t.below key ++ before, after ++ t.above key, ?_, ?_⟩
  · rw [Cursor.drain_cursor, toList_around h.pos key, hc]
    simp
  · rw [Cursor.drain_cursor, adjust_eq, toList_setChain h.pos, hm]
    simp

end Point

/-! ### There and back -/

lemma setChain_setChain (t : Table V) (key : String) (c d : Chain V) (m n : ℕ) :
    (t.setChain key c m).setChain key d n = t.setChain key d n := by
  rw [setChain, slot_setChain, setChain, setChain]
  congr 1
  refine Array.ext_getElem? fun i => ?_
  simp only [Array.getElem?_modify]
  split
  · rw [Option.map_map]
    rfl
  · rfl

lemma setChain_chainOf (t : Table V) (key : String) :
    t.setChain key (t.chainOf key) t.size = t := by
  have hbuckets : t.buckets.modify (t.slot key) id = t.buckets := by
    refine Array.ext_getElem? fun i => ?_
    rw [Array.getElem?_modify]
    split <;> simp
  calc t.setChain key (t.chainOf key) t.size
      = { t with buckets := t.buckets.modify (t.slot key) id } := by
        rw [modify_slot]
        rfl
    _ = t := by rw [hbuckets]

/-- Taking out what was just put in gives the table from before. -/
lemma Sound.remove_pushFront {t : Table V} (h : Sound t) (key : String) (v : V) :
    (t.pushFront key v).remove key = (.ok v, t) := by
  have hfind : (t.pushFront key v).find? key = some v := by
    rw [find?_pushFront h, if_pos rfl]
  have hchain : (t.pushFront key v).chainOf key = (key, v) :: t.chainOf key := by
    rw [pushFront_eq, chainOf_setChain h.pos, if_pos rfl]
  have herase : (t.pushFront key v).erase key = t := by
    rw [Table.erase, hchain, Chain.erase, if_pos rfl, size_pushFront, Nat.add_sub_cancel, pushFront_eq,
      setChain_setChain, setChain_chainOf]
  simp only [remove_eq, hfind, herase]

/-! ### Chains list arrivals -/

/-- The chains have these keys, each chain in this order. -/
def Lists (t : Table V) (keys : List String) : Prop :=
  ∀ (j : ℕ) (c : Chain V), t.buckets[j]? = some c →
    Chain.keys c = keys.filter fun key => t.slot key = j

namespace Lists

variable {t : Table V} {keys : List String}

lemma keys_chainOf (hl : Lists t keys) (h : Sound t) (key : String) :
    Chain.keys (t.chainOf key) = keys.filter fun k => t.slot k = t.slot key :=
  hl _ _ (getElem?_slot h.pos key)

lemma mem_iff (hl : Lists t keys) (h : Sound t) (key : String) :
    key ∈ keys ↔ t.contains key = true := by
  have hmem : key ∈ Chain.keys (t.chainOf key) ↔ key ∈ keys := by
    rw [hl.keys_chainOf h]
    simp
  rw [← hmem, contains, find?, Option.isSome_iff_ne_none, ne_eq, Chain.find?_eq_none_iff, not_not]

/-- What keys another chain must have to go with another list. -/
lemma setChain (hl : Lists t keys) {key : String} {c : Chain V} {n : ℕ} {keys' : List String}
    (hown : Chain.keys c = keys'.filter fun k => t.slot k = t.slot key)
    (hother : ∀ j, t.slot key ≠ j →
      (keys'.filter fun k => t.slot k = j) = keys.filter fun k => t.slot k = j) :
    Lists (t.setChain key c n) keys' := by
  intro j d hd
  simp only [slot_setChain]
  rw [getElem?_setChain] at hd
  split at hd
  · rename_i hj
    obtain ⟨_, -, rfl⟩ := Option.map_eq_some_iff.mp hd
    rw [hown, hj]
  · rename_i hj
    rw [hother j hj, hl _ _ hd]

lemma pushFront (hl : Lists t keys) (h : Sound t) (key : String) (v : V) :
    Lists (t.pushFront key v) (key :: keys) := by
  rw [pushFront_eq]
  refine hl.setChain ?_ fun j hj => ?_
  · rw [Chain.keys_cons, hl.keys_chainOf h, List.filter_cons_of_pos (by simp)]
  · rw [List.filter_cons_of_neg (by simpa using hj)]

lemma adjust (hl : Lists t keys) (h : Sound t) (key : String) (f : V → V) :
    Lists (t.adjust key f) keys := by
  rw [adjust_eq]
  refine hl.setChain ?_ fun _ _ => rfl
  rw [Chain.keys_modify, hl.keys_chainOf h]

lemma erase (hl : Lists t keys) (h : Sound t) (key : String) :
    Lists (t.erase key) (keys.filter (· ≠ key)) := by
  refine hl.setChain ?_ fun j hj => ?_
  · have hd := h.distinct (getElem?_slot h.pos key)
    rw [Chain.keys_erase, hd.erase_eq_filter, hl.keys_chainOf h, List.filter_filter,
      List.filter_filter]
    refine List.filter_congr fun k _ => ?_
    by_cases hk : k = key <;> simp [hk]
  · -- the key itself is in another bucket
    rw [List.filter_filter]
    refine List.filter_congr fun k _ => ?_
    by_cases hk : k = key
    · simp [hk, hj]
    · simp [hk]

lemma clear (t : Table V) : Lists t.clear [] := by
  intro j c hc
  rw [Table.clear, Array.getElem?_map] at hc
  obtain ⟨_, -, rfl⟩ := Option.map_eq_some_iff.mp hc
  rfl

/-- **One command** that does not resize the table lets a key come in, or go, as in the list. -/
lemma perform (hl : Lists t keys) (h : Sound t) (c : Command V)
    (hc : ∀ n, c = .resize n → grant n ≠ .ok ()) :
    Lists (t.perform c).2 (c.arrive keys) := by
  have hmem (key : String) : key ∈ keys ↔ t.contains key = true := hl.mem_iff h key
  cases c with
  | insert key value =>
    have hk := hmem key
    simp only [Table.perform, Table.insert, Command.arrive, Table.contains] at hk ⊢
    cases hf : t.find? key with
    | none =>
      rw [if_neg (by simp [hk, hf])]
      exact hl.pushFront h key value
    | some _ =>
      rw [if_pos (by simp [hk, hf])]
      exact hl
  | modify key f =>
    simp only [Table.perform, modify?, Command.arrive]
    cases t.find? key with
    | none => exact hl
    | some _ => exact hl.adjust h key f
  | update key value =>
    simp only [Table.perform, Table.update, Command.arrive]
    cases t.find? key with
    | none => exact hl
    | some _ => exact hl.adjust h key _
  | updateWith key f =>
    simp only [Table.perform, Table.updateWith, Command.arrive]
    cases t.find? key with
    | none => exact hl
    | some _ => exact hl.adjust h key f
  | remove key =>
    have hk := hmem key
    simp only [Table.perform, remove_eq, Command.arrive, Table.contains] at hk ⊢
    cases hf : t.find? key with
    | none =>
      have hne : ∀ k ∈ keys, decide (k ≠ key) = true := by
        rintro k hkeys
        simp only [decide_eq_true_eq]
        rintro rfl
        simp [hf, hk] at hkeys
      rw [List.filter_eq_self.mpr hne]
      exact hl
    | some _ => exact hl.erase h key
  | resize n =>
    have hn := hc n rfl
    rw [grant_eq (V := V)] at hn
    simp only [Table.perform, resize_eq, Command.arrive]
    cases hb : emptyBuckets V n with
    | error e => exact hl
    | ok b =>
      rw [hb] at hn
      exact absurd rfl hn
  | clear => exact Lists.clear t
  | accumulate plus key delta =>
    have hk := hmem key
    simp only [Table.perform, Table.accumulate, Command.arrive, Table.contains] at hk ⊢
    cases hf : t.find? key with
    | none =>
      rw [if_neg (by simp [hk, hf])]
      exact hl.pushFront h key delta
    | some _ =>
      rw [if_pos (by simp [hk, hf])]
      exact hl.adjust h key _
  | find _ | contains _ | size | isEmpty => exact hl

end Lists

/-- No resize of a history goes through. -/
def Unresized (history : List (Command V)) : Prop :=
  ∀ n, Command.resize n ∈ history → grant n ≠ .ok ()

lemma Lists.run {t : Table V} {keys : List String} (hl : Lists t keys) (h : Sound t)
    {history : List (Command V)} (hu : Unresized history) :
    Lists (t.run history) (history.foldl Command.arrive keys) := by
  induction history generalizing t keys with
  | nil => exact hl
  | cons c cs ih =>
    have hc : ∀ n, c = .resize n → grant n ≠ .ok () := fun n hn => hu n (hn ▸ List.mem_cons_self)
    exact ih (hl.perform h c hc) (h.perform c) fun n hn => hu n (List.mem_cons_of_mem c hn)

lemma bucketCount_run (t : Table V) {history : List (Command V)} (hu : Unresized history) :
    (t.run history).bucketCount = t.bucketCount := by
  induction history generalizing t with
  | nil => rfl
  | cons c cs ih =>
    have hc : ∀ n, c = .resize n → grant n ≠ .ok () := fun n hn => hu n (hn ▸ List.mem_cons_self)
    rw [run_cons, ih _ fun n hn => hu n (List.mem_cons_of_mem c hn), bucketCount_perform t hc]

lemma lists_create {hash : KeyHash} {count : ℕ} {t : Table V} (h : create hash count = .ok t) :
    Lists t [] := by
  obtain ⟨-, rfl⟩ := eq_of_create h
  intro j c hc
  rw [Array.getElem?_replicate] at hc
  split_ifs at hc
  obtain rfl := Option.some.inj hc
  rfl

/-! ### The operations on one key -/

/-- What the operations on one key do to the order of an iteration. -/
structure Stable (s : Table V) : Prop where
  insert : ∀ (key : String) (v : V), (s.insert key v).1 = .ok () →
    Entered key v s (s.insert key v).2
  remove : ∀ (key : String) (v : V), (s.remove key).1 = .ok v → Left key v s (s.remove key).2
  update : ∀ (key : String) (old new : V), (s.update key new).1 = .ok old →
    Changed key old new s (s.update key new).2
  updateWith : ∀ (key : String) (f : V → V), (s.updateWith key f).1 = .ok () →
    ∃ old, Changed key old (f old) s (s.updateWith key f).2
  modify : ∀ (key : String) (f : V → V) (new : V), (s.modify? key f).1 = some new →
    ∃ old, f old = new ∧ Changed key old new s (s.modify? key f).2
  /-- A running total begins as a new pair does. -/
  starts : ∀ (plus : V → V → V) (key : String) (delta : V), s.find? key = none →
    Entered key delta s (s.accumulate plus key delta).2
  grows : ∀ (plus : V → V → V) (key : String) (delta total : V), s.find? key = some total →
    Changed key total (plus total delta) s (s.accumulate plus key delta).2
  /-- Taking out what was just put in gives the very table from before. -/
  undo : ∀ (key : String) (v : V), (s.insert key v).1 = .ok () →
    (s.insert key v).2.remove key = (.ok v, s)

/-! A success tells what was found and what the table has become. -/

section Success

variable {s : Table V} {key : String}

lemma insert_ok {v : V} (hok : (s.insert key v).1 = .ok ()) :
    (s.insert key v).2 = s.pushFront key v := by
  unfold Table.insert at hok ⊢
  cases hf : s.find? key with
  | none => rfl
  | some _ =>
    rw [hf] at hok
    cases hok

lemma remove_ok {v : V} (hok : (s.remove key).1 = .ok v) :
    s.find? key = some v ∧ (s.remove key).2 = s.erase key := by
  rw [remove_eq] at hok ⊢
  cases hf : s.find? key with
  | none =>
    rw [hf] at hok
    cases hok
  | some w =>
    rw [hf] at hok
    exact ⟨congrArg some (Except.ok.inj hok), rfl⟩

lemma update_ok {old new : V} (hok : (s.update key new).1 = .ok old) :
    s.find? key = some old ∧ (s.update key new).2 = s.adjust key fun _ => new := by
  unfold Table.update at hok ⊢
  cases hf : s.find? key with
  | none =>
    rw [hf] at hok
    cases hok
  | some w =>
    rw [hf] at hok
    exact ⟨congrArg some (Except.ok.inj hok), rfl⟩

lemma updateWith_ok {f : V → V} (hok : (s.updateWith key f).1 = .ok ()) :
    ∃ old, s.find? key = some old ∧ (s.updateWith key f).2 = s.adjust key f := by
  unfold Table.updateWith at hok ⊢
  cases hf : s.find? key with
  | none =>
    rw [hf] at hok
    cases hok
  | some old => exact ⟨old, rfl, rfl⟩

lemma modify?_eq_some {f : V → V} {new : V} (hsome : (s.modify? key f).1 = some new) :
    ∃ old, s.find? key = some old ∧ f old = new ∧ (s.modify? key f).2 = s.adjust key f := by
  unfold modify? at hsome ⊢
  cases hf : s.find? key with
  | none =>
    rw [hf] at hsome
    cases hsome
  | some old =>
    rw [hf] at hsome
    exact ⟨old, rfl, Option.some.inj hsome, rfl⟩

end Success

lemma Sound.stable {s : Table V} (h : Sound s) : Stable s where
  insert key v hok := by
    rw [insert_ok hok]
    exact h.entered_pushFront key v
  remove key v hok := by
    obtain ⟨hf, hr⟩ := remove_ok hok
    rw [hr]
    exact h.left_erase hf
  update key old new hok := by
    obtain ⟨hf, hr⟩ := update_ok hok
    rw [hr]
    exact h.changed_adjust hf fun _ => new
  updateWith key f hok := by
    obtain ⟨old, hf, hr⟩ := updateWith_ok hok
    rw [hr]
    exact ⟨old, h.changed_adjust hf f⟩
  modify key f new hsome := by
    obtain ⟨old, hf, hnew, hr⟩ := modify?_eq_some hsome
    rw [hr, ← hnew]
    exact ⟨old, rfl, h.changed_adjust hf f⟩
  starts plus key delta hf := by
    rw [accumulate, hf]
    exact h.entered_pushFront key delta
  grows plus key delta total hf := by
    rw [accumulate, hf]
    exact h.changed_adjust hf (plus · delta)
  undo key v hok := by
    rw [insert_ok hok]
    exact h.remove_pushFront key v

/-- **The order of an iteration is stable.** Of a table that was created, whatever was done to it,
resizes included, an operation on one key adds, takes out or changes one pair in the order of an
iteration and leaves all others as they stood; taking out what was just put in gives the very table
from before. If no resize went through, each bucket lists the keys that its hash selects for it, the
one that came in last at the head, and these are the keys that are there. -/
theorem stable_run {hash : KeyHash} {count : ℕ} {t : Table V} (h : create hash count = .ok t)
    (history : List (Command V)) :
    let s := t.run history
    Stable s ∧ (Unresized history →
      (∀ key, key ∈ arrivals history ↔ s.contains key = true) ∧
      ∀ (j : ℕ) (c : Chain V), s.buckets[j]? = some c →
        c.map Prod.fst = (arrivals history).filter fun key => (hash key).toNat % count = j) := by
  intro s
  obtain ⟨hs, -⟩ := sound_create h
  have hrun : Sound s := hs.run history
  refine ⟨hrun.stable, fun hu => ?_⟩
  have hlists : Lists s (arrivals history) := (lists_create h).run hs hu
  have hslot (key : String) : s.slot key = (hash key).toNat % count := by
    obtain ⟨-, rfl⟩ := eq_of_create h
    have hhash : s.hash = hash := hash_run _ history
    have hcount : s.buckets.size = count :=
      (bucketCount_run _ hu).trans (Array.size_replicate)
    rw [slot, slotOf, hhash, hcount]
  refine ⟨hlists.mem_iff hrun, fun j c hc => ?_⟩
  simp only [← hslot]
  exact hlists j c hc

/-- A key that goes and comes back among others of one bucket stands at their head. -/
theorem stable_run_returning :
    let t : Table ℕ := ⟨fun _ => 7, #[[], [], []], 0⟩
    let history : List (Command ℕ) := [.insert "a" 1, .insert "b" 2, .accumulate (· + ·) "c" 3,
      .resize 0, .remove "a", .update "b" 5, .insert "a" 4]
    let s := t.run history
    create (fun _ => 7) 3 = .ok t ∧ Unresized history ∧
      s.buckets[1]? = some [("a", 4), ("c", 3), ("b", 5)] ∧
      ["a", "c", "b"] = (arrivals history).filter (fun _ => (7 : UInt64).toNat % 3 = 1) ∧
      Entered "d" 6 s (s.insert "d" 6).2 ∧ Left "c" 3 s (s.remove "c").2 := by
  intro t history s
  have h : create (fun _ => 7) 3 = .ok t := rfl
  have hu : Unresized history := by
    intro n hn
    obtain rfl : n = 0 := by simpa [history] using hn
    nofun
  obtain ⟨hstable, hlists⟩ := stable_run h history
  have hbucket : s.buckets[1]? = some [("a", 4), ("c", 3), ("b", 5)] := by decide +kernel
  exact ⟨h, hu, hbucket, (hlists hu).2 1 _ hbucket, hstable.insert "d" 6 (by decide +kernel),
    hstable.remove "c" 3 (by decide +kernel)⟩

end Table

end TreeHaul.Store
