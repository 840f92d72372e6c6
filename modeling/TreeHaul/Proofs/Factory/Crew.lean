import Mathlib.Algebra.BigOperators.Fin
import Mathlib.Algebra.BigOperators.Group.Finset.Piecewise
import TreeHaul.Files.System
import TreeHaul.Proofs.Factory.Accounting
import TreeHaul.Proofs.Factory.Numbered
import TreeHaul.Proofs.Store.Invariant
import TreeHaul.Shared

/-!
Workers that share a factory and a store. Each acquires an entry, files its own path and gives the
entry back, in three updates between which the others may do anything of theirs.
-/

universe u

namespace TreeHaul

open TreeHaul.Path TreeHaul.Store HasEntry
open scoped List

/-! ### Workers -/

/-- How far a worker has come. -/
inductive Stage (δ : Type) where
  | waiting
  | holding (d : δ)
  | filed (d : δ) (answer : Except StoreError Unit)
  | finished (answer : Except StoreError Unit)

namespace Stage

variable {δ ε : Type}

def map (g : δ → ε) : Stage δ → Stage ε
  | waiting => waiting
  | holding d => holding (g d)
  | filed d answer => filed (g d) answer
  | finished answer => finished answer

/-- The entry that a worker has. -/
def held? : Stage δ → Option δ
  | holding d | filed d _ => some d
  | waiting | finished _ => none

/-- What the store answered. -/
def answer? : Stage δ → Option (Except StoreError Unit)
  | filed _ answer | finished answer => some answer
  | waiting | holding _ => none

/-- How many of its updates a worker has made. -/
def rank : Stage δ → ℕ
  | waiting => 0
  | holding _ => 1
  | filed .. => 2
  | finished _ => 3

end Stage

/-- What the workers share, and how far each of them has come. -/
structure Crew (N : ℕ) (δ V : Type) where
  pool : Factory δ
  store : Table V
  stage : Fin N → Stage δ

namespace Crew

variable {N : ℕ} {σ : Type u} {δ ε V : Type}

def start (config : Config) (store : Table V) : Crew N δ V :=
  ⟨.ofConfig config, store, fun _ => .waiting⟩

/-- The next update of one worker, in whatever world it is made. What is made anew is made by `make`
from the count of what was handed out before. -/
def turn [Driver σ δ] (make : ℕ → Backend → String → δ) (job : Fin N → String × V) (i : Fin N)
    (w : σ) (s : Crew N δ V) : Crew N δ V :=
  match s.stage i with
  | .waiting =>
    let (d, pool, _) := s.pool.acquireBy (make s.pool.stats.acquired) (job i).1 w
    { s with pool, stage := Function.update s.stage i (.holding d) }
  | .holding d =>
    let (answer, store) := s.store.insert (job i).1 (job i).2
    { s with store, stage := Function.update s.stage i (.filed d answer) }
  | .filed d answer =>
    let (pool, _) := s.pool.release d w
    { s with pool, stage := Function.update s.stage i (.finished answer) }
  | .finished _ => s

/-- The updates of all workers in some order. -/
def run [Driver σ δ] (make : ℕ → Backend → String → δ) (job : Fin N → String × V)
    (order : List (Fin N × σ)) (s : Crew N δ V) : Crew N δ V :=
  Shared.run s (order.map fun a => turn make job a.1 a.2)

lemma run_cons [Driver σ δ] (make : ℕ → Backend → String → δ) (job : Fin N → String × V)
    (i : Fin N) (w : σ) (order : List (Fin N × σ)) (s : Crew N δ V) :
    run make job ((i, w) :: order) s = run make job order (turn make job i w s) := rfl

/-! ### What an update does -/

/-- One worker comes to its next stage, and the others stay where they are. -/
structure Advances (i : Fin N) (x : Stage δ) (s s' : Crew N δ V) : Prop where
  stage : s'.stage = Function.update s.stage i x
  rank : x.rank = (s.stage i).rank + 1

/-- What can come of an update. -/
inductive Turned [Driver σ δ] (make : ℕ → Backend → String → δ) (job : Fin N → String × V)
    (i : Fin N) (w : σ) (s : Crew N δ V) : Crew N δ V → Prop
  | acquires {s' : Crew N δ V} {o : δ × Factory δ × σ} :
    s.pool.acquireBy (make s.pool.stats.acquired) (job i).1 w = o →
    s.stage i = .waiting → Advances i (.holding o.1) s s' → s'.pool = o.2.1 →
    s'.store = s.store → Turned make job i w s s'
  | files {s' : Crew N δ V} {d : δ} {o : Except StoreError Unit × Table V} :
    s.store.insert (job i).1 (job i).2 = o →
    s.stage i = .holding d → Advances i (.filed d o.1) s s' → s'.pool = s.pool →
    s'.store = o.2 → Turned make job i w s s'
  | releases {s' : Crew N δ V} {d : δ} {answer : Except StoreError Unit} :
    s.stage i = .filed d answer → Advances i (.finished answer) s s' →
    s'.pool = (s.pool.release d w).1 → s'.store = s.store → Turned make job i w s s'
  | rests {s' : Crew N δ V} {answer : Except StoreError Unit} :
    s.stage i = .finished answer → s' = s → Turned make job i w s s'

section Turned

variable [Driver σ δ] {make : ℕ → Backend → String → δ} {job : Fin N → String × V}
  {s s' : Crew N δ V} {i : Fin N} {x : Stage δ}

lemma turned (make : ℕ → Backend → String → δ) (job : Fin N → String × V) (i : Fin N) (w : σ)
    (s : Crew N δ V) : Turned make job i w s (turn make job i w s) := by
  unfold turn
  split
  · rename_i h
    exact .acquires rfl h ⟨rfl, by rw [h]; rfl⟩ rfl rfl
  · rename_i d h
    exact .files rfl h ⟨rfl, by rw [h]; rfl⟩ rfl rfl
  · rename_i d answer h
    exact .releases h ⟨rfl, by rw [h]; rfl⟩ rfl rfl
  · rename_i answer h
    exact .rests h rfl

/-- **A run** keeps what each update keeps. -/
lemma run_preserves {P : Crew N δ V → Prop}
    (hstep : ∀ {i : Fin N} {w : σ} {s s' : Crew N δ V}, Turned make job i w s s' → P s → P s')
    (order : List (Fin N × σ)) (h : P s) : P (run make job order s) := by
  induction order generalizing s with
  | nil => exact h
  | cons a rest ih => exact ih (hstep (turned make job a.1 a.2 s) h)

lemma Advances.self (h : Advances i x s s') : s'.stage i = x := by
  rw [h.stage, Function.update_self]

lemma Advances.other (h : Advances i x s s') {j : Fin N} (hj : j ≠ i) :
    s'.stage j = s.stage j := by
  rw [h.stage, Function.update_of_ne hj]

/-- What each stage has and the next stage of this worker has too, each stage has then. -/
lemma Advances.all {P : Fin N → Stage δ → Prop} (h : Advances i x s s')
    (hs : ∀ j, P j (s.stage j)) (hx : P i x) (j : Fin N) : P j (s'.stage j) := by
  by_cases hj : j = i
  · rwa [hj, h.self]
  · rw [h.other hj]
    exact hs j

/-! ### Progress -/

lemma rank_le (x : Stage δ) : x.rank ≤ 3 := by cases x <;> simp [Stage.rank]

lemma rank_turn (make : ℕ → Backend → String → δ) (job : Fin N → String × V) (i j : Fin N) (w : σ)
    (s : Crew N δ V) :
    ((turn make job i w s).stage j).rank =
      if j = i then min 3 ((s.stage j).rank + 1) else (s.stage j).rank := by
  have hadvances {x : Stage δ} {s' : Crew N δ V} (h : Advances i x s s') :
      (s'.stage j).rank = if j = i then min 3 ((s.stage j).rank + 1) else (s.stage j).rank := by
    by_cases hj : j = i
    · subst hj
      have hle := rank_le x
      rw [if_pos rfl, h.self, ← h.rank, Nat.min_eq_right hle]
    · rw [if_neg hj, h.other hj]
  cases turned make job i w s with
  | acquires _ _ ha | files _ _ ha | releases _ ha => exact hadvances ha
  | rests hi hs =>
    rw [hs]
    split_ifs with hj
    · rw [hj, hi]
      rfl
    · rfl

/-- A worker goes on with each of its turns until it has made three updates. -/
lemma rank_run (make : ℕ → Backend → String → δ) (job : Fin N → String × V)
    (order : List (Fin N × σ)) (j : Fin N) (s : Crew N δ V) :
    ((run make job order s).stage j).rank =
      min 3 ((s.stage j).rank + (order.map Prod.fst).count j) := by
  induction order generalizing s with
  | nil => exact (Nat.min_eq_right (rank_le _)).symm
  | cons a rest ih =>
    obtain ⟨i, w⟩ := a
    rw [run_cons, ih, rank_turn, List.map_cons, List.count_cons]
    by_cases hj : j = i
    · subst hj
      simp only [if_true, BEq.rfl]
      omega
    · have hbeq : (i == j) = false := beq_false_of_ne (Ne.symm hj)
      simp only [if_neg hj, hbeq, Bool.false_eq_true, if_false]
      omega

/-- How many workers have made so many updates. -/
def reached (s : Crew N δ V) (k : ℕ) : ℕ := ∑ i, if k ≤ (s.stage i).rank then 1 else 0

lemma Advances.reached (h : Advances i x s s') (k : ℕ) :
    s'.reached k = s.reached k + if k = x.rank then 1 else 0 := by
  have hupdate : (fun j => if k ≤ (s'.stage j).rank then 1 else 0) =
      Function.update (fun j => if k ≤ (s.stage j).rank then 1 else 0) i
        (if k ≤ x.rank then 1 else 0) := by
    rw [h.stage]
    exact Function.comp_update (fun y : Stage δ => if k ≤ y.rank then 1 else 0) s.stage i x
  have hsplit := Finset.sum_erase_add (Finset.univ : Finset (Fin N))
    (fun j => if k ≤ (s.stage j).rank then 1 else 0) (Finset.mem_univ i)
  have hrank := h.rank
  unfold Crew.reached
  rw [hupdate, Finset.sum_update_of_mem (Finset.mem_univ i), Finset.sdiff_singleton_eq_erase,
    ← hsplit]
  split_ifs <;> omega

lemma reached_of_forall {k : ℕ} (h : ∀ i, k ≤ (s.stage i).rank) : s.reached k = N := by
  unfold reached
  rw [Finset.sum_congr rfl fun i _ => if_pos (h i)]
  simp

lemma reached_start (config : Config) (store : Table V) {k : ℕ} (hk : 0 < k) :
    (start config store : Crew N δ V).reached k = 0 :=
  Finset.sum_eq_zero fun _ _ => if_neg (Nat.not_le.mpr hk)

/-! ### The store -/

/-- The store has what the workers have filed, and has refused none of it. -/
structure Filed (job : Fin N → String × V) (s : Crew N δ V) : Prop where
  sound : s.store.Sound
  size : s.store.size = s.reached 2
  found (i : Fin N) :
    s.store.find? (job i).1 = if 2 ≤ (s.stage i).rank then some (job i).2 else none
  answered (i : Fin N) (r : Except StoreError Unit) : (s.stage i).answer? = some r → r = .ok ()

lemma filed_start (config : Config) {hash : KeyHash} {count : ℕ} {store : Table V}
    (hstore : Table.create hash count = .ok store) (job : Fin N → String × V) :
    Filed job (start config store : Crew N δ V) := by
  obtain ⟨hsound, hempty⟩ := Table.sound_create hstore
  refine ⟨hsound, ?_, fun i => ?_, nofun⟩
  · rw [reached_start config store (Nat.succ_pos 1)]
    exact hsound.counted.trans (congrArg List.length hempty)
  · cases hf : store.find? (job i).1 with
    | none => exact hf
    | some v =>
      have hmem := hsound.find?_eq_some_iff.mp hf
      rw [hempty] at hmem
      cases hmem

/-- What other updates leave of the store and the answers. -/
lemma Filed.advance (h : Filed job s) (ha : Advances i x s s') (hstore : s'.store = s.store)
    (hx : x.rank ≠ 2) (hanswer : ∀ r, x.answer? = some r → r = .ok ()) : Filed job s' where
  sound := by
    rw [hstore]
    exact h.sound
  size := by rw [hstore, h.size, ha.reached, if_neg hx.symm, Nat.add_zero]
  found := by
    rw [hstore]
    refine ha.all (P := fun j y =>
      s.store.find? (job j).1 = if 2 ≤ y.rank then some (job j).2 else none) h.found ?_
    have hrank := ha.rank
    rw [h.found, hrank]
    split_ifs <;> first | rfl | omega
  answered := ha.all (P := fun _ y => ∀ r, y.answer? = some r → r = .ok ()) h.answered hanswer

/-- A worker that files finds the store without its path, as no other has the same. -/
lemma Filed.insert (h : Filed job s) (hjob : Function.Injective fun i => (job i).1) {d : δ}
    {o : Except StoreError Unit × Table V} (hi : s.stage i = .holding d)
    (ho : s.store.insert (job i).1 (job i).2 = o) (ha : Advances i (.filed d o.1) s s')
    (hstore : s'.store = o.2) : Filed job s' := by
  have hnone : s.store.find? (job i).1 = none := by
    rw [h.found, hi]
    rfl
  have hinsert : s.store.insert (job i).1 (job i).2 =
      (.ok (), s.store.pushFront (job i).1 (job i).2) := by
    unfold Table.insert
    rw [hnone]
  obtain rfl := hinsert.symm.trans ho
  refine ⟨?_, ?_, fun j => ?_, ha.all (P := fun _ y => ∀ r, y.answer? = some r → r = .ok ())
    h.answered fun r hr => (Option.some.inj hr).symm⟩
  · rw [hstore]
    exact h.sound.pushFront _ hnone
  · rw [hstore, Table.size_pushFront, h.size, ha.reached]
    rfl
  · rw [hstore, Table.find?_pushFront h.sound, h.found]
    by_cases hj : j = i
    · subst hj
      rw [if_pos rfl, ha.self]
      rfl
    · rw [if_neg fun hpath => hj (hjob hpath), ha.other hj]

lemma Filed.turned (h : Filed job s) (hjob : Function.Injective fun i => (job i).1) {w : σ}
    (ht : Turned make job i w s s') : Filed job s' := by
  cases ht with
  | acquires _ _ ha _ hstore => exact h.advance ha hstore (by simp [Stage.rank]) nofun
  | files ho hi ha _ hstore => exact h.insert hjob hi ho ha hstore
  | releases hi ha _ hstore =>
    refine h.advance ha hstore (by simp [Stage.rank]) fun r hr => h.answered i r ?_
    rw [hi]
    exact hr
  | rests _ hs => rwa [hs]

end Turned

/-! ### The factory -/

section Pool

variable [System σ] {job : Fin N → String × V} {s s' : Crew N AnyDriver V} {config : Config}

/-- Entries are made as a factory makes them. -/
abbrev plain : ℕ → Backend → String → AnyDriver := fun _ => AnyDriver.ofPath

/-- The factory has counted what the workers have acquired and given back. -/
structure Booked (config : Config) (s : Crew N AnyDriver V) : Prop where
  config : s.pool.config = config
  balanced : s.pool.Balanced
  acquired : s.pool.stats.acquired = s.reached 1
  returned : s.pool.stats.released + s.pool.stats.dropped = s.reached 3

lemma booked_start (config : Config) (store : Table V) :
    Booked config (start config store : Crew N AnyDriver V) where
  config := rfl
  balanced := Factory.balanced_ofConfig config
  acquired := (reached_start config store (Nat.succ_pos 0)).symm
  returned := (reached_start config store (Nat.succ_pos 2)).symm

lemma Booked.turned (h : Booked config s) {i : Fin N} {w : σ}
    (ht : Turned plain job i w s s') : Booked config s' := by
  cases ht with
  | acquires ho _ ha hpool =>
    have hout := s.pool.handsOut_acquire (job i).1 w
    rw [← ho, Factory.acquireBy] at hpool
    refine ⟨?_, ?_, ?_, ?_⟩
    · rw [hpool]
      exact hout.config.trans h.config
    · rw [hpool]
      exact hout.balanced h.balanced
    · rw [hpool, hout.stats, ha.reached, ← h.acquired]
      rfl
    · rw [hpool, hout.stats, ha.reached, ← h.returned]
      rfl
  | files _ _ ha hpool =>
    refine ⟨?_, ?_, ?_, ?_⟩
    · rw [hpool, h.config]
    · rw [hpool]
      exact h.balanced
    · rw [hpool, h.acquired, ha.reached]
      rfl
    · rw [hpool, h.returned, ha.reached]
      rfl
  | releases hi ha hpool hstore =>
    rename_i d answer
    have hback := s.pool.takesBack_release d w
    refine ⟨?_, ?_, ?_, ?_⟩
    · rw [hpool]
      exact hback.config.trans h.config
    · rw [hpool]
      exact hback.balanced h.balanced
    · rw [hpool, hback.acquired.1, h.acquired, ha.reached]
      rfl
    · rw [hpool, hback.returned, h.returned, ha.reached]
      rfl
  | rests _ hs => rwa [hs]

end Pool

/-! ### Numbers -/

section Numbers

variable [System σ] {job : Fin N → String × V} {s s' : Crew N Numbered V} {i : Fin N}

lemma Advances.held_cases [HasEntry δ] {t t' : Crew N δ V} {x : Stage δ} (h : Advances i x t t')
    {j : Fin N} {d : δ} (hd : (t'.stage j).held? = some d) :
    j = i ∧ x.held? = some d ∨ j ≠ i ∧ (t.stage j).held? = some d := by
  by_cases hj : j = i
  · rw [hj, h.self] at hd
    exact .inl ⟨hj, hd⟩
  · rw [h.other hj] at hd
    exact .inr ⟨hj, hd⟩

/-- A number stands for one entry, which is in one place, and is not given again. -/
structure Labelled (s : Crew N Numbered V) : Prop where
  below (i : Fin N) (d : Numbered) :
    (s.stage i).held? = some d → d.number < s.pool.stats.acquired
  shelvedBelow : ∀ n ∈ s.pool.shelved, n < s.pool.stats.acquired
  once : s.pool.shelved.Nodup
  apart (i : Fin N) (d : Numbered) : (s.stage i).held? = some d → d.number ∉ s.pool.shelved
  own (i j : Fin N) (d e : Numbered) : (s.stage i).held? = some d →
    (s.stage j).held? = some e → d.number = e.number → i = j

lemma labelled_start (config : Config) (store : Table V) :
    Labelled (start config store : Crew N Numbered V) where
  below i d hd := by cases hd
  shelvedBelow n hn := absurd hn List.not_mem_nil
  once := List.nodup_nil
  apart i d hd := by cases hd
  own i j d e hd := by cases hd

/-- A worker can take an entry: nobody else has it, and it is idle no longer. -/
structure Takes (d : Numbered) (s s' : Crew N Numbered V) : Prop where
  shelves : s'.pool.shelved ⊆ s.pool.shelved
  once : s'.pool.shelved.Nodup
  off : d.number ∉ s'.pool.shelved
  below : d.number < s.pool.stats.acquired + 1
  free (j : Fin N) (e : Numbered) : (s.stage j).held? = some e → e.number ≠ d.number

lemma Labelled.takes (h : Labelled s) {d : Numbered}
    (hd : s.pool.shelved ~ d.number :: s'.pool.shelved ∨
      d.number = s.pool.stats.acquired ∧ s'.pool.shelved = s.pool.shelved) : Takes d s s' := by
  rcases hd with hperm | ⟨hnew, hsame⟩
  · have hmem : d.number ∈ s.pool.shelved := hperm.mem_iff.mpr List.mem_cons_self
    obtain ⟨hoff, honce⟩ := List.nodup_cons.mp (hperm.nodup_iff.mp h.once)
    exact ⟨fun n hn => hperm.mem_iff.mpr (List.mem_cons_of_mem _ hn), honce, hoff,
      Nat.lt_succ_of_lt (h.shelvedBelow _ hmem), fun j e he heq => h.apart j e he (heq ▸ hmem)⟩
  · refine ⟨hsame ▸ List.Subset.refl _, hsame ▸ h.once, fun hmem => ?_, by omega, fun j e he => ?_⟩
    · rw [hsame] at hmem
      have := h.shelvedBelow _ hmem
      omega
    · have := h.below j e he
      omega

lemma Labelled.take (h : Labelled s) {d : Numbered} (hd : Takes d s s')
    (ha : Advances i (.holding d) s s')
    (hacquired : s'.pool.stats.acquired = s.pool.stats.acquired + 1) : Labelled s' := by
  refine ⟨fun j e he => ?_, fun n hn => ?_, hd.once, fun j e he => ?_, fun j k e e' he he' heq => ?_⟩
  · rw [hacquired]
    rcases ha.held_cases he with ⟨-, hx⟩ | ⟨-, he⟩
    · obtain rfl := Option.some.inj hx
      exact hd.below
    · exact Nat.lt_succ_of_lt (h.below j e he)
  · rw [hacquired]
    exact Nat.lt_succ_of_lt (h.shelvedBelow n (hd.shelves hn))
  · rcases ha.held_cases he with ⟨-, hx⟩ | ⟨-, he⟩
    · obtain rfl := Option.some.inj hx
      exact hd.off
    · exact fun hmem => h.apart j e he (hd.shelves hmem)
  · rcases ha.held_cases he with ⟨hj, hx⟩ | ⟨-, he⟩
    · rcases ha.held_cases he' with ⟨hk, -⟩ | ⟨-, he'⟩
      · exact hj.trans hk.symm
      · obtain rfl := Option.some.inj hx
        exact absurd heq.symm (hd.free k e' he')
    · rcases ha.held_cases he' with ⟨-, hx⟩ | ⟨-, he'⟩
      · obtain rfl := Option.some.inj hx
        exact absurd heq (hd.free j e he)
      · exact h.own j k e e' he he' heq

/-- What a worker gives back is idle or gone. -/
lemma Labelled.give (h : Labelled s) {d : Numbered} {answer : Except StoreError Unit}
    (hi : s.stage i = .filed d answer) (ha : Advances i (.finished answer) s s')
    (hacquired : s'.pool.stats.acquired = s.pool.stats.acquired)
    (hd : s'.pool.shelved ~ d.number :: s.pool.shelved ∨ s'.pool.shelved = s.pool.shelved) :
    Labelled s' := by
  have hheld : (s.stage i).held? = some d := by
    rw [hi]
    rfl
  have hkept {j : Fin N} {e : Numbered} (he : (s'.stage j).held? = some e) :
      j ≠ i ∧ (s.stage j).held? = some e := by
    rcases ha.held_cases he with ⟨-, hx⟩ | hold
    · cases hx
    · exact hold
  have hmem {n : ℕ} (hn : n ∈ s'.pool.shelved) : n = d.number ∨ n ∈ s.pool.shelved := by
    rcases hd with hperm | hsame
    · exact List.mem_cons.mp (hperm.mem_iff.mp hn)
    · exact .inr (hsame ▸ hn)
  refine ⟨fun j e he => ?_, fun n hn => ?_, ?_, fun j e he hn => ?_, fun j k e e' he he' => ?_⟩
  · rw [hacquired]
    exact h.below j e (hkept he).2
  · rw [hacquired]
    rcases hmem hn with rfl | hn
    · exact h.below i d hheld
    · exact h.shelvedBelow n hn
  · rcases hd with hperm | hsame
    · exact hperm.nodup_iff.mpr (List.nodup_cons.mpr ⟨h.apart i d hheld, h.once⟩)
    · rw [hsame]
      exact h.once
  · obtain ⟨hj, he⟩ := hkept he
    rcases hmem hn with heq | hn
    · exact hj (h.own j i e d he hheld heq)
    · exact h.apart j e he hn
  · exact h.own j k e e' (hkept he).2 (hkept he').2

lemma Labelled.turned (h : Labelled s) {w : σ} (ht : Turned Numbered.ofPath job i w s s') :
    Labelled s' := by
  cases ht with
  | acquires ho _ ha hpool =>
    obtain ⟨hacquired, hd⟩ := s.pool.number_acquireBy (job i).1 w
    rw [ho, ← hpool] at hacquired hd
    exact h.take (h.takes hd) ha hacquired
  | files _ hi ha hpool =>
    rename_i d o _
    have hkept {j : Fin N} {e : Numbered} (he : (s'.stage j).held? = some e) :
        (s.stage j).held? = some e := by
      rcases ha.held_cases he with ⟨hj, hx⟩ | ⟨-, hold⟩
      · rw [hj, hi]
        exact hx
      · exact hold
    refine ⟨fun j e he => ?_, ?_, ?_, fun j e he => ?_, fun j k e e' he he' => ?_⟩
    · rw [hpool]
      exact h.below j e (hkept he)
    · rw [hpool]
      exact h.shelvedBelow
    · rw [hpool]
      exact h.once
    · rw [hpool]
      exact h.apart j e (hkept he)
    · exact h.own j k e e' (hkept he) (hkept he')
  | releases hi ha hpool hstore =>
    rename_i d answer
    obtain ⟨hacquired, hd⟩ := s.pool.number_release d w
    rw [← hpool] at hacquired hd
    exact h.give hi ha hacquired hd
  | rests _ hs => rwa [hs]

/-! ### Numbers do not matter -/

/-- The same workers with other entries. -/
def map (g : δ → ε) (s : Crew N δ V) : Crew N ε V :=
  ⟨s.pool.map g, s.store, fun i => (s.stage i).map g⟩

lemma map_turn (i : Fin N) (w : σ) (s : Crew N Numbered V) :
    (turn Numbered.ofPath job i w s).map Numbered.driver =
      turn plain job i w (s.map Numbered.driver) := by
  have hstage : (s.map Numbered.driver).stage i = (s.stage i).map Numbered.driver := rfl
  have hupdate (x : Stage Numbered) :
      (fun j => (Function.update s.stage i x j).map Numbered.driver) =
        Function.update (s.map Numbered.driver).stage i (x.map Numbered.driver) :=
    Function.comp_update (Stage.map Numbered.driver) s.stage i x
  unfold turn
  rw [hstage]
  cases s.stage i with
  | waiting =>
    have hacquire : (s.map Numbered.driver).pool.acquireBy
        (plain (s.map Numbered.driver).pool.stats.acquired) (job i).1 w = _ :=
      s.pool.map_acquireBy s.pool.stats.acquired (job i).1 w
    dsimp only [Stage.map]
    rw [hacquire]
    exact congrArg (Crew.mk _ _) (hupdate (.holding _))
  | holding d => exact congrArg (Crew.mk _ _) (hupdate (.filed d _))
  | filed d answer =>
    have hrelease : (s.map Numbered.driver).pool.release d.driver w = _ := s.pool.map_release d w
    dsimp only [Stage.map]
    rw [hrelease]
    exact congrArg (Crew.mk _ _) (hupdate (.finished answer))
  | finished answer => rfl

lemma map_run (order : List (Fin N × σ)) (s : Crew N Numbered V) :
    (run Numbered.ofPath job order s).map Numbered.driver =
      run plain job order (s.map Numbered.driver) := by
  induction order generalizing s with
  | nil => rfl
  | cons a rest ih =>
    obtain ⟨i, w⟩ := a
    rw [run_cons, run_cons, ih, map_turn]

end Numbers

/-! ### What comes of it -/

variable [System σ]

/-- **Workers that share lose nothing.** Let workers with different paths share a factory and an
empty store, and make their updates in any order. Then nothing is refused, no shelf is too full, and
an entry that a worker has is neither idle nor with another worker, which can be seen once the
entries have numbers; a part of an order is an order, so this is so at any time. Once each worker
has made its three updates, the store has what all of them have filed and nothing else, and as many
entries as there are workers have been handed out and taken back. -/
theorem shared_run (config : Config) (hash : KeyHash) (count : ℕ) {store : Table V}
    (hstore : Table.create hash count = .ok store) (job : Fin N → String × V)
    (hjob : Function.Injective fun i => (job i).1) (order : List (Fin N × σ)) :
    let s : Crew N AnyDriver V := run plain job order (start config store)
    let t : Crew N Numbered V := run Numbered.ofPath job order (start config store)
    (∀ i r, (s.stage i).answer? = some r → r = .ok ()) ∧
    (∀ b, s.pool.countIdle b ≤ config.maxIdle) ∧
    (t.map Numbered.driver = s ∧
      (∀ i d, (t.stage i).held? = some d → ∀ b, ∀ e ∈ t.pool.idle b, e.number ≠ d.number) ∧
      ∀ i j d e, (t.stage i).held? = some d → (t.stage j).held? = some e →
        d.number = e.number → i = j) ∧
    ((∀ i, 3 ≤ (order.map Prod.fst).count i) →
      (∀ i, s.stage i = .finished (.ok ())) ∧
      s.store.size = N ∧ (∀ i, s.store.find? (job i).1 = some (job i).2) ∧
      s.pool.stats.acquired = N ∧ s.pool.stats.released + s.pool.stats.dropped = N) := by
  intro s t
  have hfiled : Filed job s :=
    run_preserves (fun ht h => Filed.turned h hjob ht) order (filed_start config hstore job)
  have hbooked : Booked config s :=
    run_preserves (fun ht h => Booked.turned h ht) order (booked_start config store)
  have hlabelled : Labelled t :=
    run_preserves (fun ht h => Labelled.turned h ht) order (labelled_start config store)
  refine ⟨hfiled.answered, fun b => ?_, ⟨map_run order _, fun i d hd b e he heq => ?_,
    hlabelled.own⟩, fun hdone => ?_⟩
  · rw [← hbooked.config]
    exact hbooked.balanced.capped b
  · exact hlabelled.apart i d hd (Factory.mem_shelved.mpr ⟨b, e, he, heq⟩)
  · have hrank (i : Fin N) : (s.stage i).rank = 3 := by
      have hrun := rank_run plain job order i (start config store)
      have := hdone i
      rw [hrun]
      exact Nat.min_eq_left (by omega)
    have hreached {k : ℕ} (hk : k ≤ 3) : s.reached k = N :=
      reached_of_forall fun i => (hrank i).symm ▸ hk
    refine ⟨fun i => ?_, ?_, fun i => ?_, ?_, ?_⟩
    · have hi := hrank i
      have hanswered := hfiled.answered i
      cases hx : s.stage i with
      | finished r =>
        rw [hx] at hanswered
        rw [hanswered r rfl]
      | _ =>
        rw [hx] at hi
        cases hi
    · rw [hfiled.size, hreached (by omega)]
    · rw [hfiled.found, if_pos (by rw [hrank]; omega)]
    · rw [hbooked.acquired, hreached (by omega)]
    · rw [hbooked.returned, hreached (by omega)]

/-- Two workers file under one hash, and only one of their entries finds room on the shelf. -/
theorem shared_run_crowded :
    let job : Fin 2 → String × ℕ := ![("/a", 1), ("/b", 2)]
    let order := [0, 1, 1, 0, 0, 1].map fun i => (i, Files.fresh ⟨5, 0⟩ [])
    let store : Table ℕ := ⟨fun _ => 7, #[[], [], []], 0⟩
    let s := run plain job order (start ⟨1, false, true⟩ store)
    Table.create (fun _ => 7) 3 = .ok store ∧ (Function.Injective fun i => (job i).1) ∧
    (∀ i, 3 ≤ (order.map Prod.fst).count i) ∧
    s.store.buckets[1]? = some [("/a", 1), ("/b", 2)] ∧ s.store.size = 2 ∧
    (∀ i, s.store.find? (job i).1 = some (job i).2) ∧
    s.pool.stats = ⟨2, 0, 1, 1⟩ := by
  intro job order store s
  have hstore : Table.create (fun _ => 7) 3 = .ok store := rfl
  have hjob : Function.Injective fun i => (job i).1 := by decide +kernel
  have hdone : ∀ i, 3 ≤ (order.map Prod.fst).count i := by decide
  have hbuckets : s.store.buckets[1]? = some [("/a", 1), ("/b", 2)] := by decide +kernel
  have hstats : s.pool.stats = ⟨2, 0, 1, 1⟩ := by decide +kernel
  obtain ⟨-, -, -, hend⟩ := shared_run ⟨1, false, true⟩ (fun _ => 7) 3 hstore job hjob order
  -- the state is not to be computed again
  have hs : run plain job order (start ⟨1, false, true⟩ store) = s := rfl
  rw [hs] at hend
  clear_value s
  obtain ⟨-, hsize, hfound, -, -⟩ := hend hdone
  exact ⟨hstore, hjob, hdone, hbuckets, hsize, hfound, hstats⟩

end Crew

end TreeHaul
