import Mathlib.Data.List.Nodup
import TreeHaul.Store.Chain

/-!
What the operations on a chain do to its pairs.

A look-up finds the first node with its key, so where no key stands twice it finds exactly the
pairs of the chain. The two walks of a removal agree: the node that the second one unlinks is the
one that the first one counted up to.
-/

universe u

namespace TreeHaul.Store.Chain

variable {V : Type u}

/-- The keys, head first. -/
def keys (c : Chain V) : List String := c.map Prod.fst

@[simp] lemma keys_nil : keys ([] : Chain V) = [] := rfl
@[simp] lemma keys_cons (n : String × V) (c : Chain V) : keys (n :: c) = n.1 :: keys c := rfl
@[simp] lemma keys_append (c d : Chain V) : keys (c ++ d) = keys c ++ keys d := by simp [keys]
@[simp] lemma length_keys (c : Chain V) : (keys c).length = c.length := by simp [keys]

lemma mem_keys_of_mem {c : Chain V} {n : String × V} (h : n ∈ c) : n.1 ∈ keys c :=
  List.mem_map_of_mem h

lemma find?_eq_none_iff {key : String} {c : Chain V} : find? key c = none ↔ key ∉ keys c := by
  induction c with
  | nil => simp
  | cons n rest ih =>
    by_cases h : n.1 = key
    · simp [find?, h]
    · rw [find?, if_neg h, ih, keys_cons, List.mem_cons, not_or]
      exact ⟨fun hr => ⟨Ne.symm h, hr⟩, And.right⟩

lemma mem_of_find?_eq_some {key : String} {v : V} {c : Chain V} (h : find? key c = some v) :
    (key, v) ∈ c := by
  induction c with
  | nil => simp at h
  | cons n rest ih =>
    obtain ⟨k, w⟩ := n
    by_cases hk : k = key
    · simp only [find?, if_pos hk, Option.some.injEq] at h
      simp [hk, h]
    · rw [find?, if_neg hk] at h
      exact List.mem_cons_of_mem _ (ih h)

/-- Where no key stands twice, a look-up finds exactly the pairs of the chain. -/
lemma find?_eq_some_iff {key : String} {v : V} {c : Chain V} (hc : (keys c).Nodup) :
    find? key c = some v ↔ (key, v) ∈ c := by
  refine ⟨mem_of_find?_eq_some, fun h => ?_⟩
  induction c with
  | nil => simp at h
  | cons n rest ih =>
    rw [keys_cons, List.nodup_cons] at hc
    rcases List.mem_cons.mp h with rfl | hr
    · simp [find?]
    · have hne : n.1 ≠ key := by
        intro hk
        rw [hk] at hc
        exact hc.1 (mem_keys_of_mem hr)
      rw [find?, if_neg hne]
      exact ih hc.2 hr

@[simp] lemma keys_modify (key : String) (f : V → V) (c : Chain V) :
    keys (modify key f c) = keys c := map_fst_modify key f c

lemma find?_modify (key k : String) (f : V → V) (c : Chain V) :
    find? k (modify key f c) = if k = key then (find? k c).map f else find? k c := by
  induction c with
  | nil => simp [modify]
  | cons n rest ih =>
    obtain ⟨j, v⟩ := n
    by_cases hj : j = key
    · by_cases hk : j = k
      · simp [modify, find?, ← hj, ← hk]
      · have hkk : k ≠ key := fun h => hk (hj.trans h.symm)
        simp [modify, find?, hj, hkk, Ne.symm hkk]
    · by_cases hk : j = k
      · have hkk : k ≠ key := fun h => hj (hk.trans h)
        simp [modify, find?, hk, hkk]
      · simp [modify, find?, hj, hk, ih]

/-! ### Removal -/

/-- The chain without the first node that has this key. -/
def erase (key : String) : Chain V → Chain V
  | [] => []
  | (k, v) :: rest => if k = key then rest else (k, v) :: erase key rest

/-- Where a key is, one node of its chain is concerned: it goes, or its payload changes. -/
lemma exists_split {key : String} {v : V} {c : Chain V} (h : find? key c = some v) :
    ∃ before after : Chain V, c = before ++ (key, v) :: after ∧ erase key c = before ++ after ∧
      ∀ f, modify key f c = before ++ (key, f v) :: after := by
  induction c with
  | nil => simp at h
  | cons n rest ih =>
    obtain ⟨k, w⟩ := n
    by_cases hk : k = key
    · simp only [find?, if_pos hk, Option.some.injEq] at h
      subst hk h
      exact ⟨[], rest, rfl, by simp [erase], fun f => by simp [modify]⟩
    · rw [find?, if_neg hk] at h
      obtain ⟨before, after, hc, he, hm⟩ := ih h
      refine ⟨(k, w) :: before, after, by rw [hc]; rfl, ?_, fun f => ?_⟩
      · rw [erase, if_neg hk, he]
        rfl
      · rw [modify, if_neg hk, hm]
        rfl

lemma position?_eq_none_iff {key : String} {c : Chain V} :
    position? key c = none ↔ key ∉ keys c := by
  induction c with
  | nil => simp [position?]
  | cons n rest ih =>
    by_cases h : n.1 = key
    · simp [position?, h]
    · rw [position?, if_neg h, Option.map_eq_none_iff, ih, keys_cons, List.mem_cons, not_or]
      exact ⟨fun hr => ⟨Ne.symm h, hr⟩, And.right⟩

/-- **The two walks of a removal agree**: the second one arrives, at the node with the key. -/
lemma unlink?_of_position? {key : String} {i : Nat} {c : Chain V} (h : position? key c = some i) :
    ∃ v, find? key c = some v ∧ unlink? i c = some (v, erase key c) := by
  induction c generalizing i with
  | nil => simp [position?] at h
  | cons n rest ih =>
    obtain ⟨k, w⟩ := n
    by_cases hk : k = key
    · simp only [position?, if_pos hk, Option.some.injEq] at h
      subst h
      exact ⟨w, by simp [find?, hk], by simp [unlink?, erase, hk]⟩
    · rw [position?, if_neg hk] at h
      obtain ⟨j, hj, rfl⟩ := Option.map_eq_some_iff.mp h
      obtain ⟨v, hv, hu⟩ := ih hj
      exact ⟨v, by simp [find?, hk, hv], by simp [unlink?, erase, hk, hu]⟩

lemma keys_erase (key : String) (c : Chain V) : keys (erase key c) = (keys c).erase key := by
  induction c with
  | nil => simp [erase]
  | cons n rest ih =>
    by_cases h : n.1 = key <;> simp [erase, h, ih]

lemma find?_erase_of_ne {key k : String} (hk : k ≠ key) (c : Chain V) :
    find? k (erase key c) = find? k c := by
  induction c with
  | nil => simp [erase]
  | cons n rest ih =>
    obtain ⟨j, v⟩ := n
    by_cases hj : j = key
    · simp [erase, find?, hj, Ne.symm hk]
    · simp [erase, find?, hj, ih]

lemma find?_erase_self {key : String} {c : Chain V} (hc : (keys c).Nodup) :
    find? key (erase key c) = none := by
  rw [find?_eq_none_iff, keys_erase]
  exact hc.not_mem_erase

end TreeHaul.Store.Chain
