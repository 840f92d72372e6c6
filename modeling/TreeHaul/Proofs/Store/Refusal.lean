import TreeHaul.Proofs.Store.FiniteMap

/-!
When a command is refused, and what that leaves. Whether it is refused can be told from the keys
that are there and from the number of buckets asked for; a refused command leaves the table as it
was, node by node.
-/

universe u v

namespace TreeHaul.Store

variable {V : Type u}

/-- Whether a command is carried out on a table with these keys, and if not, why. -/
def Command.verdict (keys : List String) : Command V → Except StoreError Unit
  | .insert key _ => if key ∈ keys then .error (.duplicate key) else .ok ()
  | .update key _ | .updateWith key _ | .remove key =>
    if key ∈ keys then .ok () else .error (.notFound key)
  | .resize count => grant count
  | .find _ | .modify .. | .contains _ | .clear | .size | .isEmpty | .accumulate .. => .ok ()

/-- Changing a payload by a function is the same as putting its value there. -/
lemma Chain.modify_const {key : String} {v : V} {c : Chain V} (h : Chain.find? key c = some v)
    (f : V → V) : Chain.modify key (fun _ => f v) c = Chain.modify key f c := by
  induction c with
  | nil => rfl
  | cons n rest ih =>
    by_cases hn : n.1 = key
    · have hv : n.2 = v := by simpa [Chain.find?, hn] using h
      simp [Chain.modify, hn, hv]
    · have hrest : Chain.find? key rest = some v := by simpa [Chain.find?, hn] using h
      simp [Chain.modify, hn, ih hrest]

namespace Table

lemma Sound.find?_eq_none_iff {t : Table V} (h : Sound t) {key : String} :
    t.find? key = none ↔ key ∉ t.keys := by
  rw [Option.eq_none_iff_forall_ne_some, keys, List.mem_map]
  constructor
  · rintro hnone ⟨⟨k, v⟩, hmem, rfl⟩
    exact hnone v (h.find?_eq_some_iff.mpr hmem)
  · intro hk v hv
    exact hk ⟨(key, v), h.find?_eq_some_iff.mp hv, rfl⟩

lemma Sound.mem_keys {t : Table V} (h : Sound t) {key : String} {v : V}
    (hf : t.find? key = some v) : key ∈ t.keys := by
  by_contra hk
  rw [h.find?_eq_none_iff.mpr hk] at hf
  cases hf

/-! ### A change that does something besides -/

section Effects

variable {m : Type u → Type v} [Monad m]

/-- Changes the payload of a key that is there, by a function with effects of its own. -/
def updateWithM (t : Table V) (key : String) (f : V → m V) :
    m (Except StoreError Unit × Table V) :=
  match t.find? key with
  | some v => do
    let w ← f v
    pure (.ok (), t.adjust key fun _ => w)
  | none => pure (.error (.notFound key), t)

/-- Without effects it is the change of a payload. -/
lemma updateWithM_pure [LawfulMonad m] (t : Table V) (key : String) (f : V → V) :
    t.updateWithM key (fun v => (pure (f v) : m V)) = pure (t.updateWith key f) := by
  rw [updateWithM, updateWith]
  cases hf : t.find? key with
  | none => rfl
  | some v =>
    have hadjust : (t.adjust key fun _ => f v) = t.adjust key f := by
      rw [adjust_eq, adjust_eq, Chain.modify_const hf]
    simp only [pure_bind, hadjust]

end Effects

/-! ### Refusals -/

lemma create_eq_error_iff {hash : KeyHash} {count : ℕ} {e : StoreError} :
    create (V := V) hash count = .error e ↔ grant count = .error e := by
  rw [create, grant_eq (V := V)]
  cases emptyBuckets V count with
  | error e' => simp [Except.map]
  | ok b => simp [Except.map]

/-- **One command** is refused as its verdict says, and then the table is the one from before. -/
lemma Sound.perform_eq_refused_iff {t s : Table V} (h : Sound t) (c : Command V) (e : StoreError) :
    t.perform c = (.refused e, s) ↔ c.verdict t.keys = .error e ∧ s = t := by
  have absent {key : String} (hf : t.find? key = none) : key ∉ t.keys :=
    h.find?_eq_none_iff.mp hf
  cases c with
  | insert key value =>
    simp only [Table.perform, Table.insert, Command.verdict]
    cases hf : t.find? key with
    | none => simp [absent hf, Answer.ofUnit]
    | some v => simp [h.mem_keys hf, Answer.ofUnit, eq_comm]
  | update key value =>
    simp only [Table.perform, Table.update, Command.verdict]
    cases hf : t.find? key with
    | none => simp [absent hf, Answer.ofPayload, eq_comm]
    | some v => simp [h.mem_keys hf, Answer.ofPayload]
  | updateWith key f =>
    simp only [Table.perform, Table.updateWith, Command.verdict]
    cases hf : t.find? key with
    | none => simp [absent hf, Answer.ofUnit, eq_comm]
    | some v => simp [h.mem_keys hf, Answer.ofUnit]
  | remove key =>
    -- the walk that unlinks finds what the walk that counts has found
    simp only [Table.perform, remove_eq, Command.verdict]
    cases hf : t.find? key with
    | none => simp [absent hf, Answer.ofPayload, eq_comm]
    | some v => simp [h.mem_keys hf, Answer.ofPayload]
  | resize count =>
    simp only [Table.perform, resize_eq, Command.verdict, grant_eq (V := V)]
    cases emptyBuckets V count with
    | error e' => simp [Answer.ofUnit, Except.map, eq_comm]
    | ok b => simp [Answer.ofUnit, Except.map]
  | modify key f => simp [Table.perform, Command.verdict]
  | accumulate plus key delta => simp [Table.perform, Command.verdict]
  | find _ | contains _ | clear | size | isEmpty => simp [Table.perform, Command.verdict]

/-- **Refused commands leave no trace.** A table cannot be had only for want of buckets. Of one that
was created, whatever was done to it, a command is refused exactly if its verdict says so and for
that reason, and then the table is the one from before; a change to a payload that is not there is
refused before the change is looked at. -/
theorem refused_iff {m : Type u → Type v} [Monad m] [LawfulMonad m] :
    (∀ (hash : KeyHash) (count : ℕ) (e : StoreError),
      create (V := V) hash count = .error e ↔ grant count = .error e) ∧
    ∀ (hash : KeyHash) (count : ℕ) (t : Table V), create hash count = .ok t →
      ∀ history : List (Command V),
        let s := t.run history
        (∀ (c : Command V) (e : StoreError) (s' : Table V),
          s.perform c = (.refused e, s') ↔ c.verdict s.keys = .error e ∧ s' = s) ∧
        (∀ (key : String) (f : V → m V), key ∉ s.keys →
          s.updateWithM key f = pure (.error (.notFound key), s)) ∧
        ∀ (key : String) (f : V → V),
          s.updateWithM key (fun v => (pure (f v) : m V)) = pure (s.updateWith key f) := by
  refine ⟨fun _ _ _ => create_eq_error_iff, fun hash count t h history => ?_⟩
  have hs : Sound (t.run history) := (sound_create h).1.run history
  refine ⟨fun c e _ => hs.perform_eq_refused_iff c e, fun key f hk => ?_,
    fun key f => updateWithM_pure _ key f⟩
  rw [updateWithM, hs.find?_eq_none_iff.mpr hk]

/-- Refusals for each reason, on a table where one key is present and one was removed; a change that
counts its runs is not run. -/
theorem refused_iff_removed :
    let t : Table ℕ := ⟨fun _ => 7, #[[], []], 0⟩
    let s := t.run [.insert "a" 1, .insert "b" 2, .remove "a"]
    let count : ℕ → StateM ℕ ℕ := fun v => do modify (· + 1); pure v
    create (fun _ => 7) 2 = .ok t ∧
      create (V := ℕ) byteSum (2 ^ 60) = .error (.allocation (2 ^ 60)) ∧
      s.perform (.insert "b" 9) = (.refused (.duplicate "b"), s) ∧
      s.perform (.remove "a") = (.refused (.notFound "a"), s) ∧
      s.perform (.resize 0) = (.refused .zeroBuckets, s) ∧
      (s.updateWithM "a" count).run 0 = ((.error (.notFound "a"), s), 0) := by
  intro t s count
  obtain ⟨hcreate, hrun⟩ := refused_iff (V := ℕ) (m := StateM ℕ)
  have h : create (fun _ => 7) 2 = .ok t := rfl
  obtain ⟨hrefused, hcount, -⟩ := hrun _ _ t h [.insert "a" 1, .insert "b" 2, .remove "a"]
  have hkeys : s.keys = ["b"] := by decide +kernel
  -- of the table only its keys matter from here on
  have hs : t.run [.insert "a" 1, .insert "b" 2, .remove "a"] = s := rfl
  rw [hs] at hrefused hcount
  clear_value s
  have ha : "a" ∉ s.keys := by simp [hkeys]
  have hb : "b" ∈ s.keys := by simp [hkeys]
  refine ⟨h, (hcreate _ _ _).mpr rfl, (hrefused _ _ _).mpr ⟨if_pos hb, rfl⟩,
    (hrefused _ _ _).mpr ⟨if_neg ha, rfl⟩, (hrefused _ _ _).mpr ⟨rfl, rfl⟩, ?_⟩
  rw [hcount "a" count ha]
  rfl

end Table

end TreeHaul.Store
