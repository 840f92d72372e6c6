import Mathlib.Data.Finmap
import TreeHaul.Proofs.Store.Invariant
import TreeHaul.Proofs.Store.Iteration

/-!
A table is a finite map. Whatever is asked of it, in whatever order, it answers as a map from keys
to payloads does, and its cursor yields the pairs of that map. Neither the hash nor the number of
buckets shows, and a resize shows only in its own answer.
-/

universe u

namespace TreeHaul.Store

/-- A finite map from keys to payloads. -/
abbrev FiniteMap (V : Type u) := Finmap fun _ : String => V

/-- What shows of one step: the command, its answer, and the pairs that are there after it. -/
structure Sight (V : Type u) where
  command : Command V
  answer : Answer V
  pairs : Multiset (String × V)

variable {V : Type u}

/-- Whether so many buckets can be had. -/
def grant (count : ℕ) : Except StoreError Unit :=
  if count = 0 then .error .zeroBuckets
  else if 8 * count > 2 ^ 63 - 1 then .error (.allocation count)
  else .ok ()

def Command.isResize : Command V → Bool
  | .resize _ => true
  | _ => false

namespace FiniteMap

def pairs (m : FiniteMap V) : Multiset (String × V) := m.entries.map fun e => (e.1, e.2)

/-- Carries one command out on a map. A map has no buckets, so a resize leaves it as it is. -/
def perform (m : FiniteMap V) : Command V → Answer V × FiniteMap V
  | .insert key value =>
    if key ∈ m then (.refused (.duplicate key), m) else (.done, m.insert key value)
  | .find key => (.found (m.lookup key), m)
  | .modify key f =>
    match m.lookup key with
    | some v => (.found (some (f v)), m.insert key (f v))
    | none => (.found none, m)
  | .contains key => (.flag (decide (key ∈ m)), m)
  | .update key value =>
    match m.lookup key with
    | some old => (.payload old, m.insert key value)
    | none => (.refused (.notFound key), m)
  | .updateWith key f =>
    match m.lookup key with
    | some v => (.done, m.insert key (f v))
    | none => (.refused (.notFound key), m)
  | .remove key =>
    match m.lookup key with
    | some v => (.payload v, m.erase key)
    | none => (.refused (.notFound key), m)
  | .resize count => (.ofUnit (grant count), m)
  | .clear => (.done, ∅)
  | .size => (.count m.keys.card, m)
  | .isEmpty => (.flag (decide (m.keys = ∅)), m)
  | .accumulate plus key delta =>
    match m.lookup key with
    | some total => (.payload (plus total delta), m.insert key (plus total delta))
    | none => (.payload delta, m.insert key delta)

/-- What shows of a history. -/
def watch (m : FiniteMap V) : List (Command V) → List (Sight V)
  | [] => []
  | c :: cs => ⟨c, (m.perform c).1, (m.perform c).2.pairs⟩ :: watch (m.perform c).2 cs

lemma lookup_insert_eq (m : FiniteMap V) (key k : String) (v : V) :
    (m.insert key v).lookup k = if k = key then some v else m.lookup k := by
  split
  · rename_i hk
    rw [hk, Finmap.lookup_insert]
  · rename_i hk
    exact Finmap.lookup_insert_of_ne m hk

lemma lookup_erase_eq (m : FiniteMap V) (key k : String) :
    (m.erase key).lookup k = if k = key then none else m.lookup k := by
  split
  · rename_i hk
    rw [hk, Finmap.lookup_erase]
  · rename_i hk
    exact Finmap.lookup_erase_ne hk

lemma mem_pairs {m : FiniteMap V} {key : String} {v : V} :
    (key, v) ∈ m.pairs ↔ m.lookup key = some v := by
  rw [Finmap.lookup_eq_some_iff, pairs, Multiset.mem_map]
  constructor
  · rintro ⟨e, he, h⟩
    obtain ⟨rfl, rfl⟩ := Prod.mk.inj h
    exact he
  · exact fun h => ⟨_, h, rfl⟩

lemma nodup_pairs (m : FiniteMap V) : m.pairs.Nodup := by
  refine m.nodup_entries.map fun d e h => ?_
  obtain ⟨h1, h2⟩ := Prod.mk.inj h
  exact Sigma.ext h1 (heq_of_eq h2)

lemma card_pairs (m : FiniteMap V) : m.pairs.card = m.keys.card := by
  rw [pairs, Multiset.card_map]
  exact (Multiset.card_map _ _).symm

/-- What shows of all but the resizes does not depend on where they stand. -/
lemma watch_filter (m : FiniteMap V) (history : List (Command V)) :
    (m.watch history).filter (fun s => !s.command.isResize) =
      m.watch (history.filter fun c => !c.isResize) := by
  induction history generalizing m with
  | nil => rfl
  | cons c cs ih =>
    rw [watch, List.filter_cons, List.filter_cons]
    cases hc : c.isResize with
    | false => simp [watch, ih]
    | true =>
      -- a resize leaves the map as it is
      have hm : (m.perform c).2 = m := by
        cases c <;> first | rfl | simp [Command.isResize] at hc
      simp [hm, ih]

end FiniteMap

namespace Table

/-- What shows of a history, where the pairs are those that a cursor yields. -/
def watch (t : Table V) : List (Command V) → List (Sight V)
  | [] => []
  | c :: cs => ⟨c, (t.perform c).1, (t.perform c).2.cursor.drain⟩ :: watch (t.perform c).2 cs

/-- A table holds what a map holds. -/
structure Agrees (t : Table V) (m : FiniteMap V) : Prop where
  sound : Sound t
  lookup : ∀ key, t.find? key = m.lookup key

variable {t : Table V} {m : FiniteMap V}

lemma Agrees.pairs (h : Agrees t m) : (t.toList : Multiset (String × V)) = m.pairs := by
  have ht : (t.toList : Multiset (String × V)).Nodup := h.sound.nodup_toList
  rw [Multiset.Nodup.ext ht m.nodup_pairs]
  rintro ⟨key, v⟩
  rw [FiniteMap.mem_pairs, Multiset.mem_coe, ← h.sound.find?_eq_some_iff, h.lookup]

lemma Agrees.size (h : Agrees t m) : t.size = m.keys.card := by
  rw [h.sound.counted, ← Multiset.coe_card, h.pairs, FiniteMap.card_pairs]

lemma Agrees.contains (h : Agrees t m) (key : String) : t.contains key = decide (key ∈ m) := by
  rw [Table.contains, h.lookup, Bool.eq_iff_iff, Finmap.lookup_isSome, decide_eq_true_iff]

lemma Agrees.pushFront (h : Agrees t m) {key : String} (v : V) (hf : t.find? key = none) :
    Agrees (t.pushFront key v) (m.insert key v) where
  sound := h.sound.pushFront v hf
  lookup k := by rw [find?_pushFront h.sound, FiniteMap.lookup_insert_eq, h.lookup]

lemma Agrees.adjust (h : Agrees t m) {key : String} {v : V} (f : V → V)
    (hf : t.find? key = some v) : Agrees (t.adjust key f) (m.insert key (f v)) where
  sound := h.sound.adjust key f
  lookup k := by
    rw [find?_adjust h.sound, FiniteMap.lookup_insert_eq, h.lookup]
    split
    · rename_i hk
      rw [hk, ← h.lookup, hf, Option.map_some]
    · rfl

lemma Agrees.erase (h : Agrees t m) {key : String} {v : V} (hf : t.find? key = some v) :
    Agrees (t.erase key) (m.erase key) where
  sound := h.sound.erase hf
  lookup k := by rw [find?_erase h.sound, FiniteMap.lookup_erase_eq, h.lookup]

/-- Tables with the same pairs hold the same, however the pairs are spread. -/
lemma Agrees.of_perm (h : Agrees t m) {s : Table V} (hs : Sound s) (hp : s.toList.Perm t.toList) :
    Agrees s m where
  sound := hs
  lookup key := by
    refine Option.ext fun v => ?_
    rw [← h.lookup, hs.find?_eq_some_iff, h.sound.find?_eq_some_iff]
    exact hp.mem_iff

lemma agrees_empty (ht : Sound t) (hl : t.toList = []) : Agrees t ∅ where
  sound := ht
  lookup key := by
    rw [Finmap.lookup_empty, Option.eq_none_iff_forall_ne_some]
    intro v hv
    rw [ht.find?_eq_some_iff, hl] at hv
    cases hv

lemma grant_eq (count : ℕ) : grant count = (emptyBuckets V count).map fun _ => () := by
  rw [grant, emptyBuckets]
  split
  · rfl
  · change (if bucketBytes * count > maxBlockBytes then _ else _) = _
    split <;> rfl

/-- **One step**: the table answers as the map does, and holds the same afterwards. -/
lemma Agrees.perform (h : Agrees t m) (c : Command V) :
    (t.perform c).1 = (m.perform c).1 ∧ Agrees (t.perform c).2 (m.perform c).2 := by
  cases c with
  | insert key value =>
    have hc := h.contains key
    simp only [Table.perform, FiniteMap.perform, Table.insert, Table.contains] at hc ⊢
    cases hf : t.find? key with
    | none =>
      have hm : key ∉ m := by simpa [hf] using hc
      rw [if_neg hm]
      exact ⟨rfl, h.pushFront value hf⟩
    | some _ =>
      have hm : key ∈ m := by simpa [hf] using hc
      rw [if_pos hm]
      exact ⟨rfl, h⟩
  | find key => exact ⟨congrArg Answer.found (h.lookup key), h⟩
  | modify key f =>
    simp only [Table.perform, FiniteMap.perform, modify?]
    rw [← h.lookup]
    cases hf : t.find? key with
    | none => exact ⟨rfl, h⟩
    | some v => exact ⟨rfl, h.adjust f hf⟩
  | contains key => exact ⟨congrArg Answer.flag (h.contains key), h⟩
  | update key value =>
    simp only [Table.perform, FiniteMap.perform, Table.update]
    rw [← h.lookup]
    cases hf : t.find? key with
    | none => exact ⟨rfl, h⟩
    | some v => exact ⟨rfl, h.adjust (fun _ => value) hf⟩
  | updateWith key f =>
    simp only [Table.perform, FiniteMap.perform, Table.updateWith]
    rw [← h.lookup]
    cases hf : t.find? key with
    | none => exact ⟨rfl, h⟩
    | some v => exact ⟨rfl, h.adjust f hf⟩
  | remove key =>
    simp only [Table.perform, FiniteMap.perform, remove_eq]
    rw [← h.lookup]
    cases hf : t.find? key with
    | none => exact ⟨rfl, h⟩
    | some v => exact ⟨rfl, h.erase hf⟩
  | resize count =>
    simp only [Table.perform, FiniteMap.perform, resize_eq, grant_eq (V := V)]
    cases hb : emptyBuckets V count with
    | error e => exact ⟨rfl, h⟩
    | ok b =>
      have hpos := (pos_of_emptyBuckets hb).1
      exact ⟨rfl, h.of_perm (h.sound.spread hpos) (toList_spread hpos t)⟩
  | clear => exact ⟨rfl, agrees_empty h.sound.clear (toList_clear t)⟩
  | size => exact ⟨congrArg Answer.count h.size, h⟩
  | isEmpty =>
    refine ⟨congrArg Answer.flag ?_, h⟩
    rw [Table.isEmpty, h.size, Bool.eq_iff_iff, beq_iff_eq, decide_eq_true_iff, Finset.card_eq_zero]
  | accumulate plus key delta =>
    simp only [Table.perform, FiniteMap.perform, Table.accumulate]
    rw [← h.lookup]
    cases hf : t.find? key with
    | none => exact ⟨rfl, h.pushFront delta hf⟩
    | some v => exact ⟨rfl, h.adjust (plus · delta) hf⟩

lemma Agrees.watch (h : Agrees t m) (history : List (Command V)) :
    t.watch history = m.watch history := by
  induction history generalizing t m with
  | nil => rfl
  | cons c cs ih =>
    obtain ⟨ha, hr⟩ := h.perform c
    rw [Table.watch, FiniteMap.watch, ha, Cursor.drain_cursor, hr.pairs, ih hr]

/-- **A table is a finite map.** Over any history it answers as the map that starts out empty does,
and after each step its cursor yields the pairs of that map; with the resizes left out, what shows
is the same as if they had never been asked for. -/
theorem watch_create (hash : KeyHash) (count : ℕ) (history : List (Command V)) :
    (create hash count).map (·.watch history) =
      (grant count).map (fun _ => FiniteMap.watch ∅ history) ∧
    (create hash count).map (fun t => (t.watch history).filter fun s => !s.command.isResize) =
      (grant count).map fun _ => FiniteMap.watch ∅ (history.filter fun c => !c.isResize) := by
  have hgrant : grant count = (create (V := V) hash count).map fun _ => () := by
    rw [grant_eq (V := V), create]
    cases emptyBuckets V count <;> rfl
  rw [hgrant]
  cases hc : create (V := V) hash count with
  | error e => exact ⟨rfl, rfl⟩
  | ok t =>
    obtain ⟨hs, hl⟩ := sound_create hc
    have hw := (agrees_empty hs hl).watch history
    refine ⟨congrArg Except.ok hw, congrArg Except.ok ?_⟩
    rw [← FiniteMap.watch_filter]
    exact congrArg _ hw

end Table

end TreeHaul.Store
