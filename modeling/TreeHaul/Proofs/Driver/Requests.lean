import Mathlib.Tactic.Lemma
import TreeHaul.Driver.Any

/-!
What one request does to the record of an entry. Each driver either gives the record up or leaves
it as it was, and a request that succeeds in changing something gives it up, unless the world did
not change at all.
-/

universe u

namespace TreeHaul

open TreeHaul.Os TreeHaul.Path TreeHaul.Text HasEntry

namespace Path

/-- The path and the record of an entry are as they were on another one. -/
structure Entry.Keeps (e e' : Entry) : Prop where
  path : e'.path = e.path
  record : e'.cachedStat? = e.cachedStat?
  policy : e'.flags.statFollowed = e.flags.statFollowed

lemma Entry.keeps_refl (e : Entry) : e.Keeps e := ⟨rfl, rfl, rfl⟩

lemma Entry.Keeps.trans {e e' e'' : Entry} (h : e.Keeps e') (h' : e'.Keeps e'') : e.Keeps e'' :=
  ⟨h'.path.trans h.path, h'.record.trans h.record, h'.policy.trans h.policy⟩

lemma Entry.keeps_record {α : Type} (e : Entry) (op : String) (r : Except PathError α) :
    e.Keeps (e.record op r) := ⟨rfl, rfl, rfl⟩

lemma Entry.keeps_setFileOpen (e : Entry) (b : Bool) : e.Keeps (e.setFileOpen b) := ⟨rfl, rfl, rfl⟩

lemma Entry.keeps_setDirOpen (e : Entry) (b : Bool) : e.Keeps (e.setDirOpen b) := ⟨rfl, rfl, rfl⟩

lemma Entry.recordMutation_cases {α : Type} (e : Entry) (op : String) (r : Except PathError α) :
    (e.recordMutation op r).cachedStat? = none ∨
      r.isOk = false ∧ e.Keeps (e.recordMutation op r) := by
  cases r with
  | ok a => exact .inl rfl
  | error err => exact .inr ⟨rfl, e.keeps_record op (α := α) (.error err)⟩

end Path

/-- What is set as the state of an entry is its state. -/
class LawfulEntry (δ : Type) [HasEntry δ] : Prop where
  entry_setEntry : ∀ (d : δ) (e : Entry), entry (setEntry d e) = e

instance : LawfulEntry Posix := ⟨fun _ _ => rfl⟩

instance : LawfulEntry Listing := ⟨fun _ _ => rfl⟩

instance : LawfulEntry Null := ⟨fun _ _ => rfl⟩

instance : LawfulEntry AnyDriver := ⟨fun d _ => by cases d <;> rfl⟩

namespace Request

variable {σ : Type u} {α δ : Type}

/-- The request may change what a stat of the object answers. -/
def mutates : Request α → Bool
  | open_ flags _ => flags.mutates
  | write .. | mkdir _ | remove | unlink | symlink _ | chown .. | chmod _ | setTimes _ => true
  | _ => false

lemma isOk_of_succeeded {r : Request α} {x : Except PathError α} (h : r.succeeded x = true) :
    x.isOk = true := by
  cases x with
  | ok a => rfl
  | error e => cases h

/-- The record is given up, or it is the one from before; in that case a request that may change
the object and succeeded did not touch the world. -/
def Settles [HasEntry δ] (r : Request α) (d : δ) (w : σ) (o : Outcome σ δ α) : Prop :=
  (entry o.2.1).cachedStat? = none ∨
    (entry d).Keeps (entry o.2.1) ∧ (r.mutates = true → o.1.isOk = true → o.2.2 = w)

variable [HasEntry δ] [LawfulEntry δ] {r : Request α} {d d' : δ} {w w' : σ}

lemma entry_mapEntry (f : Entry → Entry) (d : δ) : entry (Driver.mapEntry f d) = f (entry d) :=
  LawfulEntry.entry_setEntry d _

lemma settles_observed (op : String) (x : Except PathError α) (hk : (entry d).Keeps (entry d'))
    (hr : r.mutates = true → x.isOk = true → w' = w) :
    r.Settles d w (Driver.observed op x d' w') := by
  refine .inr ⟨?_, hr⟩
  rw [Driver.observed, entry_mapEntry]
  exact hk.trans ((entry d').keeps_record op x)

/-- A request that changes nothing. -/
lemma settles_seen (op : String) (x : Except PathError α) (hk : (entry d).Keeps (entry d'))
    (hr : r.mutates = false) : r.Settles d w (Driver.observed op x d' w') :=
  settles_observed op x hk fun h => absurd (hr.symm.trans h) Bool.false_ne_true

/-- A call that fails without a word to the system. -/
lemma settles_failed (op : String) (err : PathError) :
    r.Settles d w (Driver.observed op (.error err) d w) :=
  settles_observed op _ (entry d).keeps_refl fun _ _ => rfl

lemma settles_changed (op : String) (x : Except PathError α) (hk : (entry d).Keeps (entry d')) :
    r.Settles d w (Driver.changed op x d' w') := by
  unfold Settles Driver.changed
  dsimp only
  rw [entry_mapEntry]
  rcases (entry d').recordMutation_cases op x with h | ⟨hx, h⟩
  · exact .inl h
  · refine .inr ⟨hk.trans h, fun _ ho => ?_⟩
    rw [hx] at ho
    cases ho

end Request

variable {σ : Type u} [System σ] {α : Type}

open Request

/-! ### Plain paths -/

lemma Posix.settles_openFile (flags : OpenFlags) (mode : UInt32) (d : Posix) (w : σ) :
    (Request.open_ flags mode).Settles d w (d.openFile flags mode w) := by
  unfold openFile
  split
  · exact settles_failed ..
  · split
    · exact settles_observed _ _ d.entry.keeps_refl fun _ h => by cases h
    · dsimp only
      split
      · exact .inl rfl
      · rename_i hf
        exact settles_observed _ _ (d.entry.keeps_setFileOpen true) fun h => absurd h hf

lemma Posix.settles (r : Request α) (d : Posix) (w : σ) : r.Settles d w (Posix.perform r d w) := by
  have hrefl := d.entry.keeps_refl
  cases r with
  | statUncached follow => exact .inr ⟨hrefl, fun h => absurd h Bool.false_ne_true⟩
  | access mode => exact settles_seen _ _ hrefl rfl
  | accessAt mode flags =>
    rw [perform, accessAt]
    split
    · exact settles_seen _ _ hrefl rfl
    · exact settles_failed ..
  | open_ flags mode => exact settles_openFile flags mode d w
  | close =>
    rw [perform, closeFile]
    split
    · exact settles_failed ..
    · exact settles_changed _ _ (d.entry.keeps_setFileOpen false)
  | openDir =>
    rw [perform, openDir]
    split
    · exact settles_failed ..
    · split
      · exact settles_seen _ _ hrefl rfl
      · exact settles_seen _ _ (d.entry.keeps_setDirOpen true) rfl
  | closeDir =>
    rw [perform, closeDir]
    split
    · exact settles_failed ..
    · exact settles_changed _ _ (d.entry.keeps_setDirOpen false)
  | readDirEntry =>
    rw [perform, readDirEntry]
    split
    · exact settles_failed ..
    · exact settles_seen _ _ hrefl rfl
  | read len offset =>
    rw [perform, read]
    split
    · exact settles_failed ..
    · exact settles_seen _ _ hrefl rfl
  | write data offset =>
    rw [perform, write]
    split
    · exact settles_failed ..
    · exact settles_changed _ _ hrefl
  | readLink len => exact settles_seen _ _ hrefl rfl
  | canonicalPath => exact settles_seen _ _ hrefl rfl
  | setTimes times =>
    rw [perform, setTimes]
    split
    · exact settles_changed _ _ hrefl
    · exact .inr ⟨hrefl, fun _ _ => rfl⟩
  | mkdir _ | remove | unlink | symlink _ | chown _ _ | chmod _ => exact settles_changed _ _ hrefl

/-! ### List paths -/

lemma Listing.settles (r : Request α) (d : Listing) (w : σ) :
    r.Settles d w (Listing.perform r d w) := by
  have hrefl := d.entry.keeps_refl
  cases r with
  | statUncached follow => exact .inr ⟨hrefl, fun h => absurd h Bool.false_ne_true⟩
  | access mode => exact settles_seen _ _ hrefl rfl
  | accessAt mode flags =>
    rw [perform, accessAt]
    split
    · exact settles_seen _ _ hrefl rfl
    · exact settles_failed ..
  | openDir =>
    rw [perform, openDir]
    split
    · exact settles_failed ..
    · split
      · exact settles_seen _ _ hrefl rfl
      · exact settles_seen _ _ (d.entry.keeps_setDirOpen true) rfl
  | closeDir =>
    rw [perform, closeDir]
    split
    · exact settles_failed ..
    · exact settles_changed _ _ (d.entry.keeps_setDirOpen false)
  | readDirEntry =>
    rw [perform, readDirEntry]
    split
    · exact settles_failed ..
    · exact settles_seen _ _ hrefl rfl
  | canonicalPath => exact settles_seen _ _ hrefl rfl
  | open_ _ _ | close | read _ _ | write _ _ | mkdir _ | remove | unlink | symlink _ | readLink _
  | chown _ _ | chmod _ | setTimes _ => exact settles_failed ..

/-! ### The null tree -/

/-- Opening and writing keep the record even after a success, as they never reach the system. -/
lemma Null.settles (r : Request α) (d : Null) (w : σ) : r.Settles d w (Null.perform r d w) := by
  have hrefl := d.entry.keeps_refl
  cases r with
  | statUncached follow => exact .inr ⟨hrefl, fun h => absurd h Bool.false_ne_true⟩
  | access mode => exact settles_seen _ _ hrefl rfl
  | accessAt mode flags => exact settles_seen _ _ hrefl rfl
  | open_ flags mode =>
    rw [perform, openFile]
    split
    · exact settles_failed ..
    · exact settles_observed _ _ (d.entry.keeps_setFileOpen true) fun _ _ => rfl
  | close =>
    rw [perform, closeFile]
    split
    · exact settles_changed _ _ (d.entry.keeps_setFileOpen false)
    · exact settles_failed ..
  | openDir =>
    rw [perform, openDir]
    split
    · exact settles_failed ..
    · exact settles_seen _ _ (d.entry.keeps_setDirOpen true) rfl
  | closeDir =>
    rw [perform, closeDir]
    split
    · exact settles_changed _ _ (d.entry.keeps_setDirOpen false)
    · exact settles_failed ..
  | readDirEntry =>
    rw [perform, readDirEntry]
    split
    · exact settles_seen _ _ hrefl rfl
    · exact settles_failed ..
  | read len offset =>
    rw [perform, whileOpen]
    split
    · exact settles_seen _ _ hrefl rfl
    · exact settles_failed ..
  | write data offset =>
    rw [perform, whileOpen]
    split
    · exact settles_observed _ _ hrefl fun _ _ => rfl
    · exact settles_failed ..
  | mkdir _ | remove | unlink | chown _ _ | chmod _ | setTimes _ => exact .inl rfl
  | symlink _ | readLink _ => exact settles_failed ..
  | canonicalPath => exact settles_seen _ _ hrefl rfl

/-! ### Any driver -/

lemma AnyDriver.settles (r : Request α) (d : AnyDriver) (w : σ) :
    r.Settles d w (Driver.perform r d w) := by
  cases d with
  | posix d => exact Posix.settles r d w
  | list d => exact Listing.settles r d w
  | null d => exact Null.settles r d w

end TreeHaul
