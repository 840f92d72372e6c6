import TreeHaul.Proofs.Store.Refusal
import TreeHaul.Proofs.Store.Resizing

/-!
Running totals. A table that is only accumulated into, and resized in between, holds for each key
the left fold over what was given to it so far, and each key once. The operation need not be
associative or commutative, so the order in which things were given is part of the total.
-/

universe u

namespace TreeHaul.Store

variable {V : Type u}

/-! ### Totals of what was given -/

/-- A step of an accumulation. -/
inductive Posting (V : Type u) where
  | add (key : String) (delta : V)
  | resize (count : ℕ)

namespace Posting

def command (plus : V → V → V) : Posting V → Command V
  | add key delta => .accumulate plus key delta
  | resize count => .resize count

/-- What is given to a key. -/
def delta? (key : String) : Posting V → Option V
  | add k delta => if k = key then some delta else none
  | resize _ => none

def key? : Posting V → Option String
  | add key _ => some key
  | resize _ => none

end Posting

/-- What was given to a key, in order. -/
def deltas (key : String) (ps : List (Posting V)) : List V := ps.filterMap (·.delta? key)

/-- The keys that something was given to. -/
def seen (ps : List (Posting V)) : List String := ps.filterMap Posting.key?

/-- The left fold over what was given, from the first on. -/
def total? (plus : V → V → V) : List V → Option V
  | [] => none
  | d :: ds => some (ds.foldl plus d)

variable {plus : V → V → V} {ps : List (Posting V)} {key k : String} {delta : V} {count : ℕ}

lemma total?_snoc (ds : List V) (delta : V) :
    total? plus (ds ++ [delta]) = some ((total? plus ds).elim delta (plus · delta)) := by
  cases ds with
  | nil => rfl
  | cons d ds => exact congrArg some (List.foldl_concat ..)

lemma total?_eq_none_iff {ds : List V} : total? plus ds = none ↔ ds = [] := by
  cases ds with
  | nil => exact ⟨fun _ => rfl, fun _ => rfl⟩
  | cons d ds => exact ⟨nofun, nofun⟩

lemma deltas_snoc (k : String) (ps : List (Posting V)) (p : Posting V) :
    deltas k (ps ++ [p]) = deltas k ps ++ (p.delta? k).toList := by
  rw [deltas, List.filterMap_append, ← deltas]
  cases h : p.delta? k <;> simp [h]

lemma seen_snoc (ps : List (Posting V)) (p : Posting V) :
    seen (ps ++ [p]) = seen ps ++ p.key?.toList := by
  rw [seen, List.filterMap_append, ← seen]
  cases h : p.key? <;> simp [h]

lemma deltas_eq_nil_iff : deltas k ps = [] ↔ k ∉ seen ps := by
  have hkey (p : Posting V) : p.delta? k = none ↔ p.key? ≠ some k := by
    cases p with
    | add key delta => simp [Posting.delta?, Posting.key?]
    | resize count => simp [Posting.delta?, Posting.key?]
  rw [deltas, List.filterMap_eq_nil_iff, seen, List.mem_filterMap]
  push Not
  exact forall₂_congr fun p _ => hkey p

namespace Table

variable {t : Table V}

/-! ### One step of an accumulation -/

lemma fst_accumulate (t : Table V) (plus : V → V → V) (key : String) (delta : V) :
    (t.accumulate plus key delta).1 = (t.find? key).elim delta (plus · delta) := by
  unfold accumulate
  cases t.find? key <;> rfl

lemma Sound.find?_accumulate (h : Sound t) (plus : V → V → V) (key : String) (delta : V)
    (k : String) :
    (t.accumulate plus key delta).2.find? k =
      if k = key then some (t.accumulate plus key delta).1 else t.find? k := by
  unfold accumulate
  cases hf : t.find? key with
  | none => exact find?_pushFront h key k delta
  | some total =>
    dsimp only
    rw [find?_adjust h]
    split
    · rename_i hk
      rw [hk, hf]
      rfl
    · rfl

/-- Whether it is accepted or refused. -/
lemma Sound.find?_resize (h : Sound t) (count : ℕ) (k : String) :
    (t.resize count).2.find? k = t.find? k := by
  rw [resize_eq]
  cases hb : emptyBuckets V count with
  | error e => rfl
  | ok b =>
    have hpos := (pos_of_emptyBuckets hb).1
    refine Option.ext fun v => ?_
    rw [(h.spread hpos).find?_eq_some_iff, h.find?_eq_some_iff]
    exact (toList_spread hpos t).mem_iff

/-! ### Runs -/

/-- A table holds the totals, each key once. -/
structure Totals (plus : V → V → V) (ps : List (Posting V)) (t : Table V) : Prop where
  sound : Sound t
  total (key : String) : t.find? key = total? plus (deltas key ps)

namespace Totals

lemma size (h : Totals plus ps t) : t.size = (seen ps).dedup.length := by
  have hmem (k : String) : k ∈ t.keys ↔ k ∈ (seen ps).dedup := by
    rw [List.mem_dedup, ← not_iff_not, ← h.sound.find?_eq_none_iff, h.total, total?_eq_none_iff,
      deltas_eq_nil_iff]
  have hperm : t.keys.Perm (seen ps).dedup :=
    (List.perm_ext_iff_of_nodup h.sound.nodup_keys (List.nodup_dedup _)).mpr hmem
  rw [h.sound.counted, ← hperm.length_eq, keys, List.length_map]

lemma fst_accumulate (h : Totals plus ps t) (key : String) (delta : V) :
    total? plus (deltas key (ps ++ [.add key delta])) =
      some (t.accumulate plus key delta).1 := by
  have hdelta : (Posting.add key delta).delta? key = some delta := if_pos rfl
  rw [deltas_snoc, hdelta, Option.toList_some, total?_snoc, Table.fst_accumulate, h.total]

lemma accumulate (h : Totals plus ps t) (key : String) (delta : V) :
    Totals plus (ps ++ [.add key delta]) (t.accumulate plus key delta).2 where
  sound := h.sound.perform (.accumulate plus key delta)
  total k := by
    rw [h.sound.find?_accumulate]
    split
    · rename_i hk
      rw [hk, h.fst_accumulate]
    · rename_i hk
      have hdelta : (Posting.add key delta).delta? k = none := if_neg (Ne.symm hk)
      rw [deltas_snoc, hdelta, Option.toList_none, List.append_nil, h.total]

lemma resize (h : Totals plus ps t) (count : ℕ) :
    Totals plus (ps ++ [.resize count]) (t.resize count).2 where
  sound := h.sound.perform (.resize count)
  total k := by
    have hdelta : (Posting.resize count : Posting V).delta? k = none := rfl
    rw [h.sound.find?_resize, deltas_snoc, hdelta, Option.toList_none, List.append_nil, h.total]

/-- **One step** keeps the totals. -/
lemma perform (h : Totals plus ps t) (p : Posting V) :
    Totals plus (ps ++ [p]) (t.perform (p.command plus)).2 := by
  cases p with
  | add key delta => exact h.accumulate key delta
  | resize count => exact h.resize count

lemma run {past : List (Posting V)} (h : Totals plus past t) (ps : List (Posting V)) :
    Totals plus (past ++ ps) (t.run (ps.map (·.command plus))) := by
  -- what is past grows as the table goes on
  induction ps generalizing past t with
  | nil =>
    rw [List.append_nil]
    exact h
  | cons p ps ih =>
    have hstep := ih (h.perform p)
    rwa [List.append_assoc] at hstep

end Totals

lemma totals_create {hash : KeyHash} {count : ℕ} (h : create hash count = .ok t)
    (plus : V → V → V) : Totals plus [] t := by
  obtain ⟨hs, hl⟩ := sound_create h
  refine ⟨hs, fun key => hs.find?_eq_none_iff.mpr ?_⟩
  rw [keys, hl]
  exact List.not_mem_nil

/-- **Running totals are exact**, whatever the operation, the hash and the number of buckets are,
and wherever resizes stand in between, accepted or not. After any run each key that was seen is
there once, with the left fold over what was given to it, and the size is the number of keys seen.
The next call answers with the total so far, what it was given included; that is what the key holds
then, and the other keys hold what they held. A resize changes no total. -/
theorem totals_run (plus : V → V → V) {hash : KeyHash} {count : ℕ} {t : Table V}
    (h : create hash count = .ok t) (ps : List (Posting V)) :
    let s := t.run (ps.map (·.command plus))
    (s.keys.Nodup ∧ s.size = (seen ps).dedup.length ∧
      ∀ key, s.find? key = total? plus (deltas key ps)) ∧
    (∀ key delta,
      let r := (s.accumulate plus key delta).2
      total? plus (deltas key (ps ++ [.add key delta])) = some (s.accumulate plus key delta).1 ∧
      r.find? key = some (s.accumulate plus key delta).1 ∧
      (∀ k, k ≠ key → r.find? k = s.find? k) ∧
      r.keys.Nodup ∧ r.size = (seen (ps ++ [.add key delta])).dedup.length) ∧
    ∀ n, (s.resize n).1 = grant n ∧ (s.resize n).2.keys.Nodup ∧ (s.resize n).2.size = s.size ∧
      ∀ k, (s.resize n).2.find? k = s.find? k := by
  intro s
  have hs : Totals plus ps s := (totals_create h plus).run ps
  refine ⟨⟨hs.sound.nodup_keys, hs.size, hs.total⟩, fun key delta => ?_, fun n => ?_⟩
  · intro r
    have hr : Totals plus (ps ++ [.add key delta]) r := hs.accumulate key delta
    refine ⟨hs.fst_accumulate key delta, ?_, fun k hk => ?_, hr.sound.nodup_keys, hr.size⟩
    · rw [hs.sound.find?_accumulate, if_pos rfl]
    · rw [hs.sound.find?_accumulate, if_neg hk]
  · have hr : Totals plus (ps ++ [.resize n]) (s.resize n).2 := hs.resize n
    refine ⟨fst_resize s n, hr.sound.nodup_keys, ?_, hs.sound.find?_resize n⟩
    rw [hr.size, hs.size, seen_snoc]
    exact congrArg (List.length ∘ List.dedup) (List.append_nil _)

/-- All keys collide, and the operation shows the order: it writes digits. -/
theorem totals_run_colliding :
    let t : Table ℕ := ⟨fun _ => 7, #[[], []], 0⟩
    let plus (total delta : ℕ) := 10 * total + delta
    let ps : List (Posting ℕ) := [.add "a" 1, .add "b" 2, .resize 0, .add "a" 3, .resize 5,
      .add "b" 4]
    let s := t.run (ps.map (·.command plus))
    create (fun _ => 7) 2 = .ok t ∧ s.size = 2 ∧ s.find? "b" = some 24 ∧
      (s.accumulate plus "a" 5).1 = 135 ∧ (s.accumulate plus "a" 5).2.find? "b" = some 24 := by
  intro t plus ps s
  have h : create (fun _ => 7) 2 = .ok t := rfl
  obtain ⟨⟨-, hsize, htotal⟩, hnext, -⟩ := totals_run plus h ps
  obtain ⟨htotal', -, hother, -⟩ := hnext "a" 5
  have hb : s.find? "b" = some 24 := (htotal "b").trans (by decide)
  have ha : some 135 = some (s.accumulate plus "a" 5).1 := Eq.trans (by decide) htotal'
  exact ⟨h, hsize.trans (by decide), hb, (Option.some.inj ha).symm,
    (hother "b" (by decide)).trans hb⟩

end Table

end TreeHaul.Store
